import DevlogGraph.Text.Fold
import DevlogGraph.Text.Word

/-! Regular rules for names in running text, read by derivatives: the rule left over after one
more character. -/
namespace DevlogGraph.Pattern

inductive CharClass where
  | upper
  | lower
  | digit
  | word
  | wordOrDash
  | exactly (c : Char)
  | caseless (c : Char)
  deriving DecidableEq

def CharClass.holds : CharClass → Char → Bool
  | upper, c => 'A' ≤ c && c ≤ 'Z'
  | lower, c => 'a' ≤ c && c ≤ 'z'
  | digit, c => Text.isNumeral c
  | word, c => Text.isWord c
  | wordOrDash, c => Text.isWord c || c == '-'
  | exactly letter, c => c == letter
  | caseless letter, c => Text.sameFold c letter

inductive Rule where
  | never
  | done
  | one (cls : CharClass)
  | seq (first second : Rule)
  | either (left right : Rule)
  | many (body : Rule)
  deriving DecidableEq

namespace Rule

/-- The words of a rule. -/
inductive Matches : Rule → List Char → Prop where
  | done : Matches done []
  | one {cls : CharClass} {c : Char} (held : cls.holds c = true) : Matches (one cls) [c]
  | seq {first second : Rule} {left right : List Char} (head : Matches first left)
      (tail : Matches second right) : Matches (seq first second) (left ++ right)
  | left {left right : Rule} {word : List Char} (found : Matches left word) :
      Matches (either left right) word
  | right {left right : Rule} {word : List Char} (found : Matches right word) :
      Matches (either left right) word
  | stop {body : Rule} : Matches (many body) []
  | more {body : Rule} {first rest : List Char} (head : Matches body first)
      (tail : Matches (many body) rest) : Matches (many body) (first ++ rest)

def atLeastOnce (body : Rule) : Rule := seq body (many body)

/-- The letters of a word, one after another. -/
def letters (cls : Char → CharClass) (word : String) : Rule :=
  word.toList.foldr (fun c rest => seq (one (cls c)) rest) done

def literal (word : String) : Rule := letters .exactly word

def caselessLiteral (word : String) : Rule := letters .caseless word

/-- The rule is satisfied without a further character. -/
def acceptsEmpty : Rule → Bool
  | never => false
  | done => true
  | one _ => false
  | seq first second => first.acceptsEmpty && second.acceptsEmpty
  | either left right => left.acceptsEmpty || right.acceptsEmpty
  | many _ => true

/-- Sequence that drops a hopeless rule. -/
def followedBy : Rule → Rule → Rule
  | never, _ => never
  | done, second => second
  | first, second => seq first second

/-- The choice `left` already offers `candidate`. -/
def offers (candidate : Rule) : Rule → Bool
  | either left right => offers candidate left || offers candidate right
  | rule => rule == candidate

/-- Choice that drops hopeless and repeated branches. -/
def orElse (left right : Rule) : Rule :=
  if right = never then left
  else if left = never then right
  else if offers right left then left
  else either left right

/-- What is left of the rule after one character. -/
def after (c : Char) : Rule → Rule
  | never => never
  | done => never
  | one cls => if cls.holds c then done else never
  | seq first second =>
      let passed := followedBy (after c first) second
      if first.acceptsEmpty then orElse passed (after c second) else passed
  | either left right => orElse (after c left) (after c right)
  | many body => followedBy (after c body) (many body)

/-- The length of the longest beginning of the text that the rule matches. -/
def reach (rule : Rule) : List Char → Option Nat
  | [] => if rule.acceptsEmpty then some 0 else none
  | c :: rest =>
      if rule = never then none
      else match reach (rule.after c) rest with
        | some length => some (length + 1)
        | none => if rule.acceptsEmpty then some 0 else none

end Rule

/-- A stretch of text that a rule matches. -/
structure Occurrence where
  start : Nat
  text : List Char
  deriving DecidableEq

/-- Search from `start` on, first passing over `skip` characters that are already taken. -/
def Rule.occurrencesFrom (rule : Rule) : Nat → Nat → List Char → List Occurrence
  | _, _, [] => []
  | start, skip + 1, _ :: rest => rule.occurrencesFrom (start + 1) skip rest
  | start, 0, c :: rest =>
      match rule.reach (c :: rest) with
      | some (more + 1) =>
          ⟨start, (c :: rest).take (more + 1)⟩ :: rule.occurrencesFrom (start + 1) more rest
      | _ => rule.occurrencesFrom (start + 1) 0 rest

/-- The leftmost occurrences that do not overlap, each as long as the rule allows. -/
def Rule.occurrences (rule : Rule) (text : List Char) : List Occurrence :=
  rule.occurrencesFrom 0 0 text

end DevlogGraph.Pattern
