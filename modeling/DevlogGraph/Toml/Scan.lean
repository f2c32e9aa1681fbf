import DevlogGraph.Decimal.Digits

/-! Scanning with two kinds of failure: one after which another reading is tried, and one that is
final. Each remembers where the scan stood and what was expected there. -/
namespace DevlogGraph.Toml

/-- A place in the text: the bytes before it and the characters after it. -/
structure Cursor where
  offset : Nat
  rest : List Char

/-- Bytes from `start` up to `stop`. -/
structure Span where
  start : Nat
  stop : Nat

def Cursor.advance (cursor : Cursor) : Cursor :=
  match cursor.rest with
  | [] => cursor
  | c :: rest => ⟨cursor.offset + c.utf8Size, rest⟩

/-- What a message says about a failure. -/
inductive Context where
  /-- The construct that is invalid. -/
  | label (name : String)
  | expected (what : String)

structure Problem where
  place : Cursor
  contexts : List Context := []
  cause : Option String := none

inductive Outcome (α : Type) where
  | found (value : α) (after : Cursor)
  | missed (problem : Problem)
  | broken (problem : Problem)

def Scanner (α : Type) : Type := Cursor → Outcome α

namespace Scanner

instance : Monad Scanner where
  pure value := fun cursor => .found value cursor
  bind scanner next := fun cursor =>
    match scanner cursor with
    | .found value after => next value after
    | .missed problem => .missed problem
    | .broken problem => .broken problem

def fail : Scanner α := fun cursor => .missed ⟨cursor, [], none⟩

/-- Add a context to whatever goes wrong. -/
def during (context : Context) (scanner : Scanner α) : Scanner α := fun cursor =>
  match scanner cursor with
  | .found value after => .found value after
  | .missed problem => .missed { problem with contexts := problem.contexts ++ [context] }
  | .broken problem => .broken { problem with contexts := problem.contexts ++ [context] }

def labelled (name : String) (scanner : Scanner α) : Scanner α := during (.label name) scanner

def expecting (what : List String) (scanner : Scanner α) : Scanner α :=
  what.foldl (fun scanner name => during (.expected name) scanner) scanner

/-- No other reading is tried after a failure. -/
def must (scanner : Scanner α) : Scanner α := fun cursor =>
  match scanner cursor with
  | .missed problem => .broken problem
  | outcome => outcome

def orElse (first second : Scanner α) : Scanner α := fun cursor =>
  match first cursor with
  | .missed _ => second cursor
  | outcome => outcome

def optional (scanner : Scanner α) : Scanner (Option α) := fun cursor =>
  match scanner cursor with
  | .found value after => .found (some value) after
  | .missed _ => .found none cursor
  | .broken problem => .broken problem

/-- Keep the value only if it means something; otherwise the scan stands at its start. -/
def meaning (scanner : Scanner α) (read : α → Except String β) : Scanner β := fun cursor =>
  match scanner cursor with
  | .found value after =>
      match read value with
      | .ok value => .found value after
      | .error cause => .missed ⟨cursor, [], if cause.isEmpty then none else some cause⟩
  | .missed problem => .missed problem
  | .broken problem => .broken problem

def withSpan (scanner : Scanner α) : Scanner (α × Span) := fun cursor =>
  match scanner cursor with
  | .found value after => .found (value, ⟨cursor.offset, after.offset⟩) after
  | .missed problem => .missed problem
  | .broken problem => .broken problem

/-- The next character, which is not taken. -/
def peek : Scanner Char := fun cursor =>
  match cursor.rest with
  | [] => .missed ⟨cursor, [], none⟩
  | c :: _ => .found c cursor

def one (test : Char → Bool) : Scanner Char := fun cursor =>
  match cursor.rest with
  | [] => .missed ⟨cursor, [], none⟩
  | c :: _ => if test c then .found c cursor.advance else .missed ⟨cursor, [], none⟩

def char (expected : Char) : Scanner Char := one (· == expected)

def any : Scanner Char := one fun _ => true

def dropCharacters : Nat → Cursor → Cursor
  | 0, cursor => cursor
  | count + 1, cursor => dropCharacters count cursor.advance

/-- Exactly these characters. -/
def word (expected : String) : Scanner Unit := fun cursor =>
  if expected.toList.isPrefixOf cursor.rest then
    .found () (dropCharacters expected.toList.length cursor)
  else .missed ⟨cursor, [], none⟩

/-- As many characters as pass the test. -/
def takeWhile (test : Char → Bool) : Scanner (List Char) := fun cursor =>
  let taken := cursor.rest.takeWhile test
  .found taken (dropCharacters taken.length cursor)

/-- Characters that pass the test, at least `least` and at most `most`. -/
def takeBetween (least most : Nat) (test : Char → Bool) : Scanner (List Char) := fun cursor =>
  let taken := (cursor.rest.take most).takeWhile test
  if taken.length < least then .missed ⟨cursor, [], none⟩
  else .found taken (dropCharacters taken.length cursor)

def takeSome (test : Char → Bool) : Scanner (List Char) := fun cursor =>
  takeBetween 1 cursor.rest.length test cursor

def endOfText : Scanner Unit := fun cursor =>
  if cursor.rest.isEmpty then .found () cursor else .missed ⟨cursor, [], none⟩

/-- Repeat until the scanner misses. The fuel bounds the number of rounds. -/
def manyWithin (scanner : Scanner α) : Nat → Scanner (List α)
  | 0 => pure []
  | fuel + 1 => fun cursor =>
      match scanner cursor with
      | .found value after =>
          match manyWithin scanner fuel after with
          | .found later last => .found (value :: later) last
          | .missed problem => .missed problem
          | .broken problem => .broken problem
      | .missed _ => .found [] cursor
      | .broken problem => .broken problem

def many (scanner : Scanner α) : Scanner (List α) := fun cursor =>
  manyWithin scanner (cursor.rest.length + 1) cursor

/-- Items after the first one; a separator without an item behind it is not taken. -/
def moreSeparated (item : Scanner α) (separator : Scanner β) : Scanner (List α) :=
  many do
    let _ ← separator
    item

def separatedSome (item : Scanner α) (separator : Scanner β) : Scanner (List α) := do
  let first ← item
  let later ← moreSeparated item separator
  pure (first :: later)

def separated (item : Scanner α) (separator : Scanner β) : Scanner (List α) := do
  match ← optional item with
  | none => pure []
  | some first =>
      let later ← moreSeparated item separator
      pure (first :: later)

end Scanner

def Problem.label? (problem : Problem) : Option String :=
  problem.contexts.findSome? fun
    | .label name => some name
    | .expected _ => none

def Problem.expected (problem : Problem) : List String :=
  problem.contexts.filterMap fun
    | .label _ => none
    | .expected what => some what

/-- What is invalid, what was expected, and why, each on a line of its own. -/
def Problem.message (problem : Problem) : String :=
  let invalid := match problem.label? with
    | some name => [s!"invalid {name}"]
    | none => []
  let expected := match problem.expected with
    | [] => []
    | names => ["expected " ++ ", ".intercalate names]
  "\n".intercalate (invalid ++ expected ++ problem.cause.toList)

end DevlogGraph.Toml
