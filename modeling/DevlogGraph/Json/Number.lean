import DevlogGraph.Json.Reader

/-! Numbers: 64-bit integers where they fit, else doubles from a 64-bit significand and a power
of ten, each step rounded on its own. -/
namespace DevlogGraph.Json

open Decimal (isDigit digitValue)

inductive Number where
  | natural (value : Nat)
  | negative (magnitude : Nat)
  | real (value : Float)

def Number.found : Number → Schema.Found
  | natural value => .natural value
  | negative magnitude => .negative magnitude
  | real value => .real value

def Number.toFloat : Number → Float
  | natural value => Float.ofNat value
  | negative magnitude => -(Float.ofNat magnitude)
  | real value => value

/-- A significand below `2 ^ 64` and the digits that did not fit into it. -/
structure Gathered where
  significand : Nat
  taken : Nat
  dropped : Nat

/-- Add digits while the significand stays below `2 ^ 64`. -/
def gather : Nat → List Char → Gathered
  | significand, [] => ⟨significand, 0, 0⟩
  | significand, c :: rest =>
      if significand * 10 + digitValue c < UInt64.size then
        let more := gather (significand * 10 + digitValue c) rest
        { more with taken := more.taken + 1 }
      else ⟨significand, 0, rest.length + 1⟩

def tenTo (power : Nat) : Float := Float.ofScientific 1 false power

/-- Divide by `10 ^ 308` until the exponent is in the range of doubles. -/
def shrink : Nat → Float → Nat → Float
  | 0, value, _ => value
  | steps + 1, value, power =>
      if power ≤ 308 then value / tenTo power
      else if value == 0 then value
      else shrink steps (value / tenTo 308) (power - 308)

/-- The double for `significand * 10 ^ exponent`, if it is finite. -/
def scale (significand : Nat) (exponent : Int) : Option Float :=
  let value := Float.ofNat significand
  if exponent < 0 then some (shrink 4 value exponent.natAbs)
  else if exponent ≤ 308 then
    let product := value * tenTo exponent.natAbs
    if product.isInf then none else some product
  else if significand = 0 then some value
  else none

def signed (negative : Bool) (value : Float) : Float := if negative then -value else value

def scaled (negative : Bool) (significand : Nat) (exponent : Int) : Reader Number := fun rest =>
  match scale significand exponent with
  | some value => .done (.real (signed negative value)) rest
  | none => .stuck ⟨.numberOutOfRange, Text.byteCount rest⟩

/-- The place of the digit with which an exponent leaves the 32-bit range. -/
def exponentOverflow : Nat → List Char → Option (List Char)
  | _, [] => none
  | exponent, c :: rest =>
      if Nat.pow 2 31 ≤ exponent * 10 + digitValue c then some rest
      else exponentOverflow (exponent * 10 + digitValue c) rest

/-- An exponent, from behind its letter. -/
def exponentPart (negative : Bool) (significand : Nat) (start : Int) : Reader Number := fun text =>
  let (down, text) := match text with
    | '+' :: rest => (false, rest)
    | '-' :: rest => (true, rest)
    | rest => (false, rest)
  match text with
  | [] => .stuck ⟨.unexpectedEnd .value, 0⟩
  | c :: _ =>
      if !isDigit c then .stuck ⟨.invalidNumber, Text.byteCount text - 1⟩
      else
        let digits := text.takeWhile isDigit
        let rest := text.dropWhile isDigit
        match exponentOverflow 0 digits with
        | some after =>
            if significand != 0 && !down then
              .stuck ⟨.numberOutOfRange, Text.byteCount after + Text.byteCount rest⟩
            else .done (.real (signed negative 0)) rest
        | none =>
            let size : Int := Decimal.ofDigits digits
            scaled negative significand (if down then start - size else start + size) rest

def isExponentMark (c : Char) : Bool := c == 'e' || c == 'E'

/-- A fraction, from behind its point. -/
def fractionPart (negative : Bool) (significand : Nat) (start : Int) : Reader Number := fun text =>
  let digits := text.takeWhile isDigit
  let rest := text.dropWhile isDigit
  if digits.isEmpty then
    if rest.isEmpty then .stuck ⟨.unexpectedEnd .value, 0⟩
    else .stuck ⟨.invalidNumber, Text.byteCount rest - 1⟩
  else
    let gathered := gather significand digits
    let exponent := start - (gathered.taken : Int)
    match rest with
    | c :: after =>
        if isExponentMark c then exponentPart negative gathered.significand exponent after
        else scaled negative gathered.significand exponent rest
    | [] => scaled negative gathered.significand exponent []

/-- The integer itself; minus zero and what lies below the 64-bit range are doubles. -/
def integer (negative : Bool) (significand : Nat) : Number :=
  if !negative then .natural significand
  else if 0 < significand && significand ≤ Nat.pow 2 63 then .negative significand
  else .real (-(Float.ofNat significand))

/-- A number, from behind its sign. -/
def number (negative : Bool) : Reader Number := fun text =>
  match text with
  | [] => .stuck ⟨.unexpectedEnd .value, 0⟩
  | c :: after =>
      if !isDigit c then .stuck ⟨.invalidNumber, Text.byteCount text - 1⟩
      else if c = '0' && after.head?.any isDigit then .stuck ⟨.invalidNumber, Text.byteCount after - 1⟩
      else
        let gathered := gather 0 (text.takeWhile isDigit)
        let rest := text.dropWhile isDigit
        match rest with
        | '.' :: fraction => fractionPart negative gathered.significand gathered.dropped fraction
        | mark :: exponent =>
            if isExponentMark mark then
              exponentPart negative gathered.significand gathered.dropped exponent
            else if gathered.dropped = 0 then .done (integer negative gathered.significand) rest
            else scaled negative gathered.significand gathered.dropped rest
        | [] =>
            if gathered.dropped = 0 then .done (integer negative gathered.significand) []
            else scaled negative gathered.significand gathered.dropped []

/-- Pass over an exponent, from behind its letter. -/
def skipExponent : Reader Unit := fun text =>
  let text := match text with
    | '+' :: rest => rest
    | '-' :: rest => rest
    | rest => rest
  match text with
  | [] => .stuck ⟨.invalidNumber, 0⟩
  | c :: rest =>
      if isDigit c then .done () (rest.dropWhile isDigit) else .stuck ⟨.invalidNumber, Text.byteCount text - 1⟩

/-- Pass over what may follow the digits before the point. -/
def skipFraction : Reader Unit := fun text =>
  match text with
  | '.' :: rest =>
      if !rest.head?.any isDigit then .stuck ⟨.invalidNumber, Text.byteCount rest - 1⟩
      else match rest.dropWhile isDigit with
        | mark :: after => if isExponentMark mark then skipExponent after else .done () (mark :: after)
        | [] => .done () []
  | mark :: after => if isExponentMark mark then skipExponent after else .done () (mark :: after)
  | [] => .done () []

/-- Pass over a number, from behind its sign; its size does not matter. -/
def skipNumber : Reader Unit := fun text =>
  match text with
  | [] => .stuck ⟨.invalidNumber, 0⟩
  | '0' :: rest =>
      if rest.head?.any isDigit then .stuck ⟨.invalidNumber, Text.byteCount rest - 1⟩ else skipFraction rest
  | c :: rest =>
      if isDigit c then skipFraction (rest.dropWhile isDigit)
      else .stuck ⟨.invalidNumber, Text.byteCount text - 1⟩

end DevlogGraph.Json
