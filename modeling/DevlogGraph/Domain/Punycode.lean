/-! Labels of domain names in plain letters: the plain characters come first, and then, as numbers
in a mixed base, where each of the others goes. -/
namespace DevlogGraph.Domain

namespace Punycode

/-- The first character that is not plain. -/
def start : Nat := 0x80

def startBias : Nat := 72

/-- Numbers stay below this bound while they are read. -/
def bound : Nat := UInt32.size

/-- The value from which on a digit is not the last, at a place counted in steps of 36. -/
def threshold (place bias : Nat) : Nat := max 1 (min 26 (place - bias))

theorem threshold_bounds (place bias : Nat) :
    1 ≤ threshold place bias ∧ threshold place bias ≤ 26 := by
  unfold threshold
  omega

/-- Scale a distance down, and count the steps it takes. -/
def scaled (distance steps : Nat) : Nat × Nat :=
  if 455 < distance then scaled (distance / 35) (steps + 36) else (distance, steps)
termination_by distance
decreasing_by exact Nat.div_lt_self (by omega) (by omega)

/-- The bias after a distance was written, when `count` characters are known. -/
def adapted (distance count : Nat) (first : Bool) : Nat :=
  let distance := if first then distance / 700 else distance / 2
  let (distance, steps) := scaled (distance + distance / count) 0
  steps + 36 * distance / (distance + 38)

/-- Letters count from 0, and digits go on from 26. -/
def digit (value : Nat) : Char :=
  if value < 26 then Char.ofNat ('a'.toNat + value) else Char.ofNat ('0'.toNat + value - 26)

def digitValue? (c : Char) : Option Nat :=
  if 'a' ≤ c && c ≤ 'z' then some (c.toNat - 'a'.toNat)
  else if '0' ≤ c && c ≤ '9' then some (c.toNat - '0'.toNat + 26)
  else none

/-- A number in the mixed base, lowest place first. -/
def digits (bias place number : Nat) : List Char :=
  let limit := threshold place bias
  if number < limit then [digit number]
  else digit (limit + (number - limit) % (36 - limit)) ::
    digits bias (place + 36) ((number - limit) / (36 - limit))
termination_by number
decreasing_by
  have positive := (threshold_bounds place bias).1
  have shrinks := Nat.div_le_self (number - threshold place bias) (36 - threshold place bias)
  omega

def isPlain (c : Char) : Bool := c.toNat < start

structure Writer where
  written : List Char := []
  distance : Nat := 0
  bias : Nat := startBias
  /-- How many characters are placed. -/
  placed : Nat
  first : Bool := true

/-- Pass one character of the label while those equal to `point` are placed. -/
def Writer.pass (point : Nat) (writer : Writer) (c : Char) : Writer :=
  if c.toNat < point then { writer with distance := writer.distance + 1 }
  else if c.toNat = point then {
    written := writer.written ++ digits writer.bias 36 writer.distance
    distance := 0
    bias := adapted writer.distance (writer.placed + 1) writer.first
    placed := writer.placed + 1
    first := false }
  else writer

/-- Place characters in the order of their code points; `next` is the lowest that may come. -/
def Writer.place (label : List Char) (writer : Writer) (next : Nat) : List Nat → Writer
  | [] => writer
  | point :: later =>
      let ahead := { writer with
        distance := writer.distance + (point - next) * (writer.placed + 1) }
      let passed := label.foldl (Writer.pass point) ahead
      ({ passed with distance := passed.distance + 1 } : Writer).place label (point + 1) later

/-- The code points that are not plain, ascending, each once. -/
def points (label : List Char) : List Nat :=
  (((label.filter fun c => !isPlain c).map Char.toNat).mergeSort).eraseDups

def encode (label : List Char) : List Char :=
  let plain := label.filter isPlain
  let writer : Writer := { placed := plain.length }
  plain ++ (if plain.isEmpty then [] else ['-']) ++
    (writer.place label start (points label)).written

structure ReaderState where
  found : List Char
  point : Nat := start
  index : Nat := 0
  bias : Nat := startBias
  /-- Where the number that is being read began. -/
  origin : Nat := 0
  place : Nat := 36
  weight : Nat := 1

/-- A finished number tells the next character and its place. -/
def ReaderState.insert? (state : ReaderState) : Option ReaderState :=
  let count := state.found.length + 1
  let point := state.point + state.index / count
  let index := state.index % count
  if point.isValidChar then some {
    found := state.found.take index ++ Char.ofNat point :: state.found.drop index
    point := point
    index := index + 1
    bias := adapted (state.index - state.origin) count (state.origin == 0)
    origin := index + 1 }
  else none

def ReaderState.read? (state : ReaderState) (c : Char) : Option ReaderState := do
  let value ← digitValue? c
  let index := state.index + value * state.weight
  let limit := threshold state.place state.bias
  let weight := state.weight * (36 - limit)
  if bound ≤ index then none
  else if value < limit then ({ state with index := index } : ReaderState).insert?
  else if bound ≤ weight then none
  else some { state with index := index, place := state.place + 36, weight := weight }

/-- The plain characters before the last hyphen, if there are any, and the numbers. -/
def parts (written : List Char) : List Char × List Char :=
  let numbers := (written.reverse.takeWhile (· != '-')).reverse
  let plain := written.take (written.length - numbers.length - 1)
  if plain.isEmpty then ([], written) else (plain, numbers)

def decode? (written : List Char) : Option (List Char) := do
  let (plain, numbers) := parts written
  let state ← numbers.foldlM ReaderState.read? { found := plain }
  if state.weight = 1 then some state.found else none

end Punycode

end DevlogGraph.Domain
