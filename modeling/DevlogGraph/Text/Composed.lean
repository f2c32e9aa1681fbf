import DevlogGraph.Text.CombiningTable
import DevlogGraph.Text.ComposedTable
import DevlogGraph.Text.Span

/-! Composed text: of the spellings that show the same characters, the one in which marks are
joined with their letters as far as possible and the others stand in a fixed order. -/
namespace DevlogGraph.Text

def classIn : List (Nat × Nat × Nat) → Nat → Nat
  | [], _ => 0
  | (first, last, value) :: rest, point =>
      if point < first then 0 else if point ≤ last then value else classIn rest point

/-- The place of a mark among the marks of one letter; zero for a character that is not moved. -/
def combiningClass (point : Nat) : Nat := classIn combiningClasses point

def isMark (c : Char) : Bool := inSpans markSpans c.toNat

-- Korean syllables are blocks of two or three letters, and are composed by counting.

def syllableStart : Nat := 0xAC00

def leadStart : Nat := 0x1100

def vowelStart : Nat := 0x1161

/-- One before the first closing letter. -/
def tailStart : Nat := 0x11A7

def leadCount : Nat := 19

def vowelCount : Nat := 21

def tailCount : Nat := 28

def syllableCount : Nat := leadCount * vowelCount * tailCount

def isBetween (start count point : Nat) : Bool := start ≤ point && point < start + count

/-- The two characters that a composed one stands for; the first may be composed again. -/
def halves? (point : Nat) : Option (Nat × Nat) :=
  if isBetween syllableStart syllableCount point then
    let index := point - syllableStart
    if index % tailCount = 0 then
      some (leadStart + index / (vowelCount * tailCount),
        vowelStart + index / tailCount % vowelCount)
    else some (point - index % tailCount, tailStart + index % tailCount)
  else composites.lookup point

/-- The character that stands for the two, if there is one. -/
def union? (first second : Nat) : Option Nat :=
  if isBetween leadStart leadCount first && isBetween vowelStart vowelCount second then
    some (syllableStart +
      ((first - leadStart) * vowelCount + (second - vowelStart)) * tailCount)
  else if isBetween syllableStart syllableCount first && (first - syllableStart) % tailCount = 0
      && isBetween (tailStart + 1) (tailCount - 1) second then
    some (first + (second - tailStart))
  else (composites.find? fun (_, halves) => halves == (first, second)).map (·.1)

/-- How often a character can be taken apart one time after another. -/
def compositionDepth : Nat := 4

/-- Take apart a character up to `depth` times. -/
def takenApart : Nat → Nat → List Nat
  | 0, point => [point]
  | depth + 1, point =>
      match halves? point with
      | none => [point]
      | some (first, second) => takenApart depth first ++ [second]

/-- Let a mark sink behind the marks of lower classes that follow it. -/
def settled (point : Nat) : List Nat → List Nat
  | [] => [point]
  | next :: rest =>
      if 0 < combiningClass next && combiningClass next < combiningClass point then
        next :: settled point rest
      else point :: next :: rest

def decomposed (points : List Nat) : List Nat :=
  (points.flatMap (takenApart compositionDepth)).foldr settled []

/-- Join later characters with `letter`; `marks` are those in between that could not be joined. -/
def joined (letter : Nat) (marks : List Nat) : List Nat → List Nat
  | [] => letter :: marks
  | next :: rest =>
      let reachable := marks.all fun mark => combiningClass mark < combiningClass next
      match if reachable then union? letter next else none with
      | some union => joined union marks rest
      | none =>
          if combiningClass next = 0 then letter :: marks ++ joined next [] rest
          else joined letter (marks ++ [next]) rest

/-- Marks with no letter before them stay; after that, letters collect their marks. -/
def recomposed : List Nat → List Nat
  | [] => []
  | point :: rest =>
      if combiningClass point = 0 then joined point [] rest else point :: recomposed rest

def composed (text : List Char) : List Char :=
  (recomposed (decomposed (text.map Char.toNat))).map Char.ofNat

end DevlogGraph.Text
