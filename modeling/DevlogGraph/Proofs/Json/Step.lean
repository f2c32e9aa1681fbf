import DevlogGraph.Json.Reader

/-! What a step has read, if it has read anything. Where only this matters, a fault and a refused
value are alike, and readers compose as partial functions do. -/
namespace DevlogGraph.Json

open Reader

def Step.result : Step α → Option (α × List Char)
  | done value rest => some (value, rest)
  | stuck _ => none
  | refused _ _ => none

@[simp] theorem result_done (value : α) (rest : List Char) :
    (Step.done value rest).result = some (value, rest) := rfl

@[simp] theorem result_settle (step : Step α) : step.settle.result = step.result := by
  cases step <;> rfl

@[simp] theorem result_settled (reader : Reader α) (text : List Char) :
    (settled reader text).result = (reader text).result :=
  result_settle (reader text)

@[simp] theorem result_bind (reader : Reader α) (next : α → Reader β) (text : List Char) :
    ((reader >>= next) text).result =
      (reader text).result.bind fun found => (next found.1 found.2).result := by
  change ((reader text).bind next).result = _
  cases reader text <;> rfl

@[simp] theorem result_pure (value : α) (text : List Char) :
    ((pure value : Reader α) text).result = some (value, text) := rfl

@[simp] theorem result_fail (fault : Fault) (text : List Char) :
    (fail fault text : Step α).result = none := rfl

@[simp] theorem result_failNext (fault : Fault) (text : List Char) :
    (failNext fault text : Step α).result = none := rfl

@[simp] theorem result_refuse (found : Schema.Mismatch) (text : List Char) :
    (refuse found text : Step α).result = none := rfl

@[simp] theorem result_advance (c : Char) (rest : List Char) :
    (advance (c :: rest)).result = some ((), rest) := rfl

@[simp] theorem result_peek (text : List Char) : (peek text).result = some (text.head?, text) := rfl

/-- White space at the front does not count. -/
theorem result_peekVisible (text : List Char) : (peekVisible text).result =
    some ((text.dropWhile isSpace).head?, text.dropWhile isSpace) := rfl

@[simp] theorem result_peekVisible_nil : (peekVisible []).result = some (none, []) := rfl

theorem result_peekVisible_cons (visible : isSpace c = false) (rest : List Char) :
    (peekVisible (c :: rest)).result = some (some c, c :: rest) := by
  rw [result_peekVisible, List.dropWhile_cons_of_neg (by simp [visible])]
  rfl

@[simp] theorem result_word (expected rest : List Char) :
    (word expected (expected ++ rest)).result = some ((), rest) := by
  induction expected with
  | nil => rfl
  | cons c more ih => simpa [word] using ih

end DevlogGraph.Json
