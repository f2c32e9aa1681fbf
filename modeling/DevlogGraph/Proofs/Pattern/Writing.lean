import DevlogGraph.Proofs.Pattern.Expression
import DevlogGraph.Text.Fold
import DevlogGraph.Text.Within

/-! Expressions as they are written, as far as they are single characters and repetitions of them. A
text that is spelled out, with a backslash in front of each special character, is read as its own
letters, whatever stands around it. -/
namespace DevlogGraph.Pattern

open Text

/-- Characters that a backslash makes stand for themselves. -/
def isSpecial (c : Char) : Bool :=
  ['\\', '.', '+', '*', '?', '(', ')', '|', '[', ']', '\x7b', '\x7d', '^', '$', '#', '&', '-',
    '~'].contains c

/-- Special characters that mean something within brackets only. -/
def isPlainOutside (c : Char) : Bool := [']', '\x7d', '#', '&', '-', '~'].contains c

/-- A text as an expression that stands for it. -/
def spelled (text : List Char) : List Char :=
  text.flatMap fun c => if isSpecial c then ['\\', c] else [c]

inductive Sign where
  | letter (c : Char)
  | blank
  | star
  deriving DecidableEq

/-- The signs of a written expression; none if there is a sign of another kind. -/
def signs : List Char → Option (List Sign)
  | [] => some []
  | '\\' :: c :: rest =>
      if c = 's' then (signs rest).map (.blank :: ·)
      else if isSpecial c then (signs rest).map (.letter c :: ·)
      else none
  | c :: rest =>
      if c = '*' then (signs rest).map (.star :: ·)
      else if isSpecial c && !isPlainOutside c then none
      else (signs rest).map (.letter c :: ·)

/-- Whether a character counts as the letter. -/
def letterTest (caseless : Bool) (letter c : Char) : Bool :=
  if caseless then sameFold letter c else letter == c

/-- What one character has to be. -/
def Sign.test? (caseless : Bool) : Sign → Option (Char → Bool)
  | letter c => some (letterTest caseless c)
  | blank => some isBlank
  | star => none

/-- The parts that the signs make up: a star belongs to the sign before it. -/
def parts (caseless : Bool) : List Sign → Option (List Expression)
  | [] => some []
  | sign :: .star :: rest => do
      let test ← sign.test? caseless
      let later ← parts caseless rest
      pure (.many true test :: later)
  | sign :: rest => do
      let test ← sign.test? caseless
      let later ← parts caseless rest
      pure (.one test :: later)

namespace Expression

/-- One part after another, and then nothing. -/
def sequence : List Expression → Expression
  | [] => many true fun _ => false
  | part :: later => both part (sequence later)

/-- The expression that is written, if it is one of these; it may start with the sign that the case of
letters does not count. -/
def read? : List Char → Option Expression
  | '(' :: '?' :: 'i' :: ')' :: rest => (signs rest >>= parts true).map sequence
  | written => (signs written >>= parts false).map sequence

/-- The text begins with a match. -/
def startsIn (expression : Expression) (text : List Char) : Bool :=
  (expression.run (fun _ _ => some ()) text).isSome

/-- There is a match somewhere in the text. -/
def foundIn (expression : Expression) (text : List Char) : Bool :=
  somewhere expression.startsIn text

end Expression

/-- A text that is spelled out is read as its letters. -/
theorem signs_spelled (text rest : List Char) :
    signs (spelled text ++ rest) = (signs rest).map (text.map .letter ++ ·) := by
  induction text with
  | nil => simp [spelled]
  | cons c later ih =>
    have onward : (signs (spelled later ++ rest)).map (Sign.letter c :: ·) =
        (signs rest).map ((c :: later).map .letter ++ ·) := by
      rw [ih, Option.map_map]
      rfl
    rw [← onward]
    by_cases special : isSpecial c = true
    · have other : c ≠ 's' := by
        rintro rfl
        revert special
        decide
      have start : spelled (c :: later) ++ rest = '\\' :: c :: (spelled later ++ rest) := by
        simp [spelled, special]
      rw [start, signs, if_neg other, if_pos special]
    · have no_star : c ≠ '*' := by
        rintro rfl
        exact special (by decide)
      have start : spelled (c :: later) ++ rest = c :: (spelled later ++ rest) := by
        simp [spelled, special]
      rw [start, signs, if_neg no_star, if_neg (by simp [special])]
      rintro _ _ rfl
      exact absurd (by decide) special

theorem signs_spelled_alone (text : List Char) :
    signs (spelled text) = some (text.map .letter) := by
  have alone := signs_spelled text []
  rwa [List.append_nil, signs, Option.map_some, List.append_nil] at alone

private theorem parts_cons {rest : List Sign} (unrepeated : rest.head? ≠ some .star)
    (caseless : Bool)
    (sign : Sign) : parts caseless (sign :: rest) = (sign.test? caseless).bind fun test =>
      (parts caseless rest).map (.one test :: ·) := by
  have same : parts caseless (sign :: rest) = (sign.test? caseless).bind fun test =>
      (parts caseless rest).bind fun later => some (.one test :: later) := by
    cases rest with
    | nil => rfl
    | cons next others =>
      cases next with
      | star => exact absurd rfl unrepeated
      | _ => rfl
  rw [same]
  simp only [Option.map_eq_bind, Function.comp_def]

theorem parts_letters {rest : List Sign} (unrepeated : rest.head? ≠ some .star) (caseless : Bool)
    (text : List Char) : parts caseless (text.map .letter ++ rest) = (parts caseless rest).map
      (text.map (fun c => Expression.one (letterTest caseless c)) ++ ·) := by
  induction text with
  | nil => simp
  | cons c later ih =>
    have ahead : (later.map Sign.letter ++ rest).head? ≠ some .star := by
      cases later with
      | nil => exact unrepeated
      | cons d more => simp
    rw [List.map_cons, List.cons_append, parts_cons ahead, ih]
    simp only [Sign.test?, Option.bind_some, Option.map_map]
    rfl

theorem parts_letters_alone (caseless : Bool) (text : List Char) :
    parts caseless (text.map .letter) =
      some (text.map fun c => Expression.one (letterTest caseless c)) := by
  have unrepeated : ([] : List Sign).head? ≠ some .star := by simp
  have alone := parts_letters unrepeated caseless text
  rwa [List.append_nil, parts, Option.map_some, List.append_nil] at alone

namespace Expression

theorem startsIn_nothing (text : List Char) : (sequence []).startsIn text = true := by
  cases text <;> rfl

theorem startsIn_one_nil (test : Char → Bool) (later : List Expression) :
    (sequence (one test :: later)).startsIn [] = false := rfl

theorem startsIn_one_cons (test : Char → Bool) (later : List Expression) (c : Char)
    (rest : List Char) : (sequence (one test :: later)).startsIn (c :: rest) =
      (test c && (sequence later).startsIn rest) := by
  have opened : (sequence (one test :: later)).startsIn (c :: rest) =
      (if test c then (sequence later).run (fun _ _ => some ()) rest else none).isSome := rfl
  rw [opened]
  cases test c with
  | false => rfl
  | true => rw [if_pos rfl, Bool.true_and, startsIn]

theorem startsIn_many_nil (greedy : Bool) (test : Char → Bool) (later : List Expression) :
    (sequence (many greedy test :: later)).startsIn [] = (sequence later).startsIn [] := rfl

/-- Whether a repetition tries to go on before it tries to stop has no influence on this. -/
theorem startsIn_many_cons (greedy : Bool) (test : Char → Bool) (later : List Expression) (c : Char)
    (rest : List Char) : (sequence (many greedy test :: later)).startsIn (c :: rest) =
      ((sequence later).startsIn (c :: rest) ||
        (test c && (sequence (many greedy test :: later)).startsIn rest)) := by
  have opened (text : List Char) : (sequence (many greedy test :: later)).startsIn text =
      (runMany greedy test ((sequence later).run fun _ _ => some ()) text).isSome := rfl
  rw [opened, opened, runMany]
  cases greedy <;> cases test c <;> simp [startsIn, Bool.or_comm]

end Expression

end DevlogGraph.Pattern
