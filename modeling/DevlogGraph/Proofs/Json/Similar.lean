import Mathlib.Data.List.TakeWhile
import DevlogGraph.Proofs.Json.Record

/-! White space behind a text does not count: whatever a reader takes, it takes as well when the text
ends with other white space. -/
namespace DevlogGraph.Json

open Reader Text Decimal

/-- Texts that differ in nothing but the white space at the end. -/
inductive Similar : List Char → List Char → Prop where
  | spaces (left : ∀ c ∈ front, isSpace c = true) (right : ∀ c ∈ back, isSpace c = true) :
      Similar front back
  | cons (c : Char) (later : Similar rest more) : Similar (c :: rest) (c :: more)

namespace Similar

variable {front back : List Char}

theorem refl (front : List Char) : Similar front front := by
  induction front with
  | nil => exact .spaces (by simp) (by simp)
  | cons c rest ih => exact .cons c ih

theorem symm (similar : Similar front back) : Similar back front := by
  induction similar with
  | spaces left right => exact .spaces right left
  | cons c _ ih => exact .cons c ih

theorem append_spaces (front : List Char) {spaces : List Char} (space : ∀ c ∈ spaces, isSpace c = true) :
    Similar front (front ++ spaces) := by
  induction front with
  | nil => exact .spaces (by simp) space
  | cons c rest ih => exact .cons c ih

/-- A visible character stands in both texts. -/
theorem visible (similar : Similar (c :: rest) back) (visible : isSpace c = false) :
    ∃ more, back = c :: more ∧ Similar rest more := by
  cases similar with
  | spaces left _ =>
    rw [left c List.mem_cons_self] at visible
    cases visible
  | cons c later => exact ⟨_, rfl, later⟩

section Test

variable {test : Char → Bool} (apart : ∀ c, test c = true → isSpace c = false)
include apart

private theorem head_spaces {spaces : List Char} (space : ∀ c ∈ spaces, isSpace c = true) :
    spaces.head?.any test = false := by
  cases spaces with
  | nil => rfl
  | cons c rest =>
    rw [List.head?_cons, Option.any_some, Bool.eq_false_iff]
    intro held
    have hidden := space c List.mem_cons_self
    rw [apart c held] at hidden
    cases hidden

theorem head_any (similar : Similar front back) : front.head?.any test = back.head?.any test := by
  cases similar with
  | spaces left right => rw [head_spaces apart left, head_spaces apart right]
  | cons c later => rfl

theorem dropWhile (similar : Similar front back) :
    Similar (front.dropWhile test) (back.dropWhile test) := by
  have stays {spaces : List Char} (space : ∀ c ∈ spaces, isSpace c = true) :
      spaces.dropWhile test = spaces := by
    have head := head_spaces apart space
    cases spaces with
    | nil => rfl
    | cons c rest => exact List.dropWhile_cons_of_neg (by simpa using head)
  induction similar with
  | spaces left right =>
    rw [stays left, stays right]
    exact .spaces left right
  | cons c later ih =>
    rw [List.dropWhile_cons, List.dropWhile_cons]
    split
    · exact ih
    · exact .cons c later

end Test

/-- What comes next is visible in both texts, or both have ended. -/
theorem dropSpace (similar : Similar front back) :
    (front.dropWhile isSpace = [] ∧ back.dropWhile isSpace = []) ∨
      ∃ c rest more, isSpace c = false ∧ front.dropWhile isSpace = c :: rest ∧
        back.dropWhile isSpace = c :: more ∧ Similar rest more ∧ more.length < back.length := by
  induction similar with
  | spaces left right =>
    exact .inl ⟨List.dropWhile_eq_nil_iff.mpr left, List.dropWhile_eq_nil_iff.mpr right⟩
  | @cons _ more c later ih =>
    rw [List.dropWhile_cons, List.dropWhile_cons]
    split
    · rcases ih with ended | ⟨d, rest, others, visible, first, second, similar, short⟩
      · exact .inl ended
      · exact .inr ⟨d, rest, others, visible, first, second, similar, Nat.lt_succ_of_lt short⟩
    · rename_i hidden
      exact .inr ⟨c, _, more, by simpa using hidden, rfl, rfl, later, Nat.lt_succ_self _⟩

/-- The visible beginning of a text stands in both. -/
theorem take (similar : Similar front back) (enough : count ≤ front.length)
    (visible : ∀ c ∈ front.take count, isSpace c = false) :
    back.take count = front.take count ∧ Similar (front.drop count) (back.drop count) := by
  induction count generalizing front back with
  | zero => exact ⟨rfl, similar⟩
  | succ count ih =>
    cases front with
    | nil => cases enough
    | cons c rest =>
      obtain ⟨here, others⟩ := List.forall_mem_cons.mp visible
      obtain ⟨more, rfl, later⟩ := similar.visible here
      obtain ⟨same, behind⟩ := ih later (Nat.le_of_succ_le_succ enough) others
      exact ⟨congrArg (c :: ·) same, behind⟩

end Similar

/-- What the first step has read, the second one has read as well; the texts behind are similar, and
the second one is shorter than the bound. -/
def Follows (bound : Nat) (step twin : Step α) : Prop :=
  ∀ value rest, step.result = some (value, rest) →
    ∃ more, twin.result = some (value, more) ∧ Similar rest more ∧ more.length < bound

theorem follows_of_none {step twin : Step α} (unread : step.result = none) :
    Follows bound step twin := by
  intro value rest read
  rw [unread] at read
  cases read

theorem Follows.mono {step twin : Step α} (follows : Follows bound step twin) (wider : bound ≤ limit) :
    Follows limit step twin := by
  intro value rest read
  obtain ⟨more, twin_read, similar, short⟩ := follows value rest read
  exact ⟨more, twin_read, similar, Nat.lt_of_lt_of_le short wider⟩

theorem follows_done (value : α) (similar : Similar rest more) (short : more.length < bound) :
    Follows bound (.done value rest) (.done value more) := by
  rintro _ _ ⟨⟩
  exact ⟨more, rfl, similar, short⟩

variable {reader twin : Reader α} {next after : α → Reader β}

theorem Follows.bind (first : Follows bound (reader front) (twin back))
    (later : ∀ value rest more, Similar rest more → more.length < bound →
      Follows limit (next value rest) (after value more)) :
    Follows limit ((reader >>= next) front) ((twin >>= after) back) := by
  intro value rest read
  rw [result_bind] at read
  obtain ⟨⟨found, middle⟩, taken, onward⟩ := Option.bind_eq_some_iff.mp read
  obtain ⟨left, twin_taken, similar, short⟩ := first found middle taken
  obtain ⟨more, twin_read, rest_similar, rest_short⟩ :=
    later found middle left similar short value rest onward
  refine ⟨more, ?_, rest_similar, rest_short⟩
  rw [result_bind, twin_taken]
  exact twin_read

theorem Follows.settled (follows : Follows bound (reader front) (twin back)) :
    Follows bound (settled reader front) (Reader.settled twin back) := by
  intro value rest read
  rw [result_settled] at read
  obtain ⟨more, twin_read, others⟩ := follows value rest read
  exact ⟨more, by rw [result_settled, twin_read], others⟩

theorem Follows.advance {next after : Unit → Reader β} (follows : Follows bound (next () rest) (after () more))
    (c : Char) : Follows bound ((Reader.advance >>= next) (c :: rest)) ((Reader.advance >>= after) (c :: more)) :=
  follows

theorem follows_advance (similar : Similar rest more) (short : more.length < bound) (c : Char) :
    Follows bound (advance (c :: rest)) (advance (c :: more)) :=
  follows_done () similar short

/-- A choice by the next visible character. -/
theorem follows_peekVisible {next after : Option Char → Reader β} (similar : Similar front back)
    (ended : Follows bound (next none []) (after none []))
    (visible : ∀ seen c rest more, seen = some c → isSpace c = false → Similar rest more →
      more.length < back.length → Follows bound (next seen (c :: rest)) (after seen (c :: more))) :
    Follows bound ((peekVisible >>= next) front) ((peekVisible >>= after) back) := by
  intro value rest read
  rw [result_bind, result_peekVisible] at read ⊢
  rcases similar.dropSpace with ⟨first, second⟩ | ⟨c, later, others, shown, first, second, alike, short⟩
  · rw [first] at read
    rw [second]
    exact ended value rest read
  · rw [first] at read
    rw [second]
    exact visible _ c later others rfl shown alike short value rest read

/-- The reader takes the same from similar texts. -/
def Steady (reader : Reader α) : Prop :=
  ∀ front back, Similar front back → Follows (back.length + 1) (reader front) (reader back)

theorem steady_word {expected : List Char} (visible : expected.any isSpace = false) :
    Steady (word expected) := by
  induction expected with
  | nil => exact fun front back similar => follows_done () similar (Nat.lt_succ_self _)
  | cons c later ih =>
    intro front back similar
    cases front with
    | nil => exact follows_of_none rfl
    | cons d rest =>
      by_cases same : d = c
      · subst same
        rw [List.any_cons, Bool.or_eq_false_iff] at visible
        obtain ⟨more, rfl, alike⟩ := similar.visible visible.1
        rw [word, word, if_pos rfl, if_pos rfl]
        exact (ih visible.2 rest more alike).mono (Nat.le_succ _)
      · refine follows_of_none ?_
        rw [word, if_neg same]
        rfl

end DevlogGraph.Json
