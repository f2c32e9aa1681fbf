import DevlogGraph.Proofs.Json.Record

/-! Values that are read whole and looked at afterwards. What is seen in a written text, or in a written
list of texts, is what it means; and nothing is seen in any other value. -/
namespace DevlogGraph.Json

open Reader Decimal

/-- What is read, if something can be seen in it. -/
def viewed (view : α → Option β) (reader : Reader α) : Reader β := do
  match view (← reader) with
  | some found => pure found
  | none => fail .expectedValue

theorem result_viewed (view : α → Option β) (reader : Reader α) (text : List Char) :
    (viewed view reader text).result =
      (reader text).result.bind fun found => (view found.1).map fun seen => (seen, found.2) := by
  rw [viewed, result_bind]
  congr 1
  funext found
  cases view found.1 <;> rfl

/-- It makes no difference whether items are viewed one after another or all at the end. -/
private theorem result_itemsWith_viewed (view : α → Option β) (reader : Reader α) (fuel : Nat)
    (first : Bool) (text : List Char) : (itemsWith (viewed view reader) fuel first text).result =
      (itemsWith reader fuel first text).result.bind fun found =>
        (found.1.mapM view).map fun seen => (seen, found.2) := by
  induction fuel generalizing first text with
  | zero => rfl
  | succ fuel ih =>
    rw [itemsWith, itemsWith, result_bind, result_bind, Option.bind_assoc]
    congr 1
    funext found
    obtain ⟨more, rest⟩ := found
    cases more with
    | false => rfl
    | true =>
      simp only [if_true, result_bind, result_viewed, ih, Option.bind_assoc]
      congr 1
      funext item
      obtain ⟨head, behind⟩ := item
      cases seen : view head with
      | none => simp [seen]
      | some found =>
        rw [Option.map_some, Option.bind_some]
        congr 1
        funext later
        obtain ⟨tail, after⟩ := later
        cases all : tail.mapM view <;> simp [seen, all]

theorem result_closedItems_viewed (view : α → Option β) (reader : Reader α) (text : List Char) :
    (closed listEnding (items (viewed view reader)) text).result =
      (closed listEnding (items reader) text).result.bind fun found =>
        (found.1.mapM view).map fun seen => (seen, found.2) := by
  rw [result_closed, result_closed, items, items, result_itemsWith_viewed, Option.bind_assoc,
    Option.bind_assoc]
  congr 1
  funext step
  obtain ⟨found, behind⟩ := step
  cases all : found.mapM view with
  | none => obtain ⟨after, none | fault⟩ := listEnding behind <;> simp [all]
  | some seen =>
    rw [Option.map_some, Option.bind_some]
    obtain ⟨after, none | fault⟩ := listEnding behind <;> simp [all]

theorem value_eq_valueWith (depth : Nat) : ∃ inner, value depth = valueWith inner := by
  cases depth with
  | zero => exact ⟨_, rfl⟩
  | succ depth => exact ⟨_, rfl⟩

theorem result_valueWith_text (inner : Option (Reader Value)) (held : String) (rest : List Char) :
    (valueWith inner (writeText held ++ rest)).result = some (.text held, rest) := by
  unfold valueWith
  rw [writeText_append, result_settled, result_bind, result_peekVisible_cons (by decide)]
  simp only [Option.bind_some, result_bind, result_advance, result_textTail_written]
  rfl

theorem result_valueWith_list (item : Reader Value) (text : List Char) :
    (valueWith (some item) ('[' :: text)).result =
      (closed listEnding (items item) text).result.map fun found => (.list found.1, found.2) := by
  rw [valueWith, result_settled, result_bind, result_peekVisible_cons (by decide)]
  simp only [Option.bind_some, result_bind, result_advance]
  cases (closed listEnding (items item) text).result <;> rfl

private theorem made_of_result {reader : Reader α} {make : α → β}
    (read : ((reader >>= fun found => pure (make found)) start).result = some (made, rest)) :
    ∃ found, made = make found := by
  simp only [result_bind, Option.bind_eq_some_iff, result_pure, Option.some.injEq,
    Prod.mk.injEq] at read
  obtain ⟨found, _, same, _⟩ := read
  exact ⟨found.1, same.symm⟩

/-- Only a quote opens a text, and only a bracket opens a list. -/
theorem opening_of_valueWith {inner : Option (Reader Value)} (visible : isSpace c = false)
    (read : (valueWith inner (c :: more)).result = some (found, rest)) :
    (∀ held, found = .text held → c = '"') ∧ (∀ items, found = .list items → c = '[') := by
  unfold valueWith at read
  rw [result_settled, result_bind, result_peekVisible_cons visible, Option.bind_some] at read
  dsimp only at read
  -- the cases are those of the reader, in its order
  generalize next : (some c : Option Char) = leading at read
  split at read
  case h_1 => cases next
  case h_2 | h_3 | h_4 =>
    simp only [result_bind, Option.bind_eq_some_iff, result_pure, Option.some.injEq,
      Prod.mk.injEq] at read
    obtain ⟨_, _, _, _, rfl, _⟩ := read
    simp
  case h_5 =>
    rw [result_bind, result_advance, Option.bind_some] at read
    obtain ⟨_, rfl⟩ := made_of_result read
    simp
  case h_6 =>
    rw [result_bind, result_advance, Option.bind_some] at read
    obtain ⟨_, rfl⟩ := made_of_result read
    exact ⟨fun _ _ => Option.some.inj next, by simp⟩
  case h_7 =>
    refine ⟨?_, fun _ _ => Option.some.inj next⟩
    split at read
    · cases read
    · rw [result_bind, result_advance, Option.bind_some] at read
      obtain ⟨_, rfl⟩ := made_of_result read
      simp
  case h_8 =>
    split at read
    · cases read
    · rw [result_bind, result_advance, Option.bind_some] at read
      obtain ⟨_, rfl⟩ := made_of_result read
      simp
  case h_9 =>
    split at read
    · obtain ⟨_, rfl⟩ := made_of_result read
      simp
    · cases read

end DevlogGraph.Json
