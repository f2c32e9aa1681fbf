import DevlogGraph.Toml.Text

/-! Numbers and dates. -/
namespace DevlogGraph.Toml

open Scanner Decimal

def digit : Scanner Char := one isDigit

/-- More digits, each perhaps after an underscore. -/
def moreDigits (test : Char → Bool) : Scanner (List Char) :=
  many (orElse (one test) (do
    let _ ← char '_'
    expecting ["digit"] (must (one test))))

def isSign (c : Char) : Bool := c == '+' || c == '-'

/-- The sign and the digits of a decimal integer; a leading zero stands alone. -/
def decimalInteger : Scanner (Bool × List Char) :=
  labelled "integer" do
    let sign ← optional (one isSign)
    let digits ← orElse (do
      let first ← one fun c => '1' ≤ c && c ≤ '9'
      let later ← moreDigits isDigit
      pure (first :: later)) (single digit)
    pure (sign == some '-', digits)

def tooLarge : String := "number too large to fit in target type"

def tooSmall : String := "number too small to fit in target type"

/-- The value of an integer, if it has 64 bits with its sign. -/
def word64 (negative : Bool) (size : Nat) : Except String Int :=
  if negative then if size ≤ Nat.pow 2 63 then .ok (-(size : Int)) else .error tooSmall
  else if size < Nat.pow 2 63 then .ok (size : Int) else .error tooLarge

/-- An integer in another base, from behind its prefix. -/
def basedInteger (lead label : String) (base : Nat) (test : Char → Bool) : Scanner Int :=
  must (meaning (labelled label do
    word lead
    let first ← one test
    let later ← moreDigits test
    pure (first :: later)) fun digits =>
      word64 false (digits.foldl (fun total c => total * base + (Text.hexValue c).getD 0) 0))

def plainInteger : Scanner Int := fun cursor =>
  match decimalInteger cursor with
  | .found (negative, digits) after =>
      match word64 negative (ofDigits digits) with
      | .ok value => .found value after
      | .error cause => .broken ⟨cursor, [], some cause⟩
  | .missed problem => .missed problem
  | .broken problem => .broken problem

def integer : Scanner Int := fun cursor =>
  match cursor.rest with
  | '0' :: 'x' :: _ => basedInteger "0x" "hexadecimal integer" 16 isHexDigit cursor
  | '0' :: 'o' :: _ => basedInteger "0o" "octal integer" 8 (fun c => '0' ≤ c && c ≤ '7') cursor
  | '0' :: 'b' :: _ => basedInteger "0b" "binary integer" 2 (fun c => c == '0' || c == '1') cursor
  | _ => plainInteger cursor

/-- Digits of which the first may be zero. -/
def anyDigits : Scanner (List Char) := do
  let first ← digit
  let later ← moreDigits isDigit
  pure (first :: later)

/-- A decimal number before its value is known. -/
structure Decimals where
  negative : Bool
  whole : List Char
  fraction : List Char := []
  exponent : Int := 0

def exponent : Scanner Int := do
  let _ ← one fun c => c == 'e' || c == 'E'
  let sign ← optional (one isSign)
  let digits ← must anyDigits
  pure (if sign == some '-' then -(ofDigits digits : Int) else (ofDigits digits : Int))

def fraction : Scanner (List Char) := do
  let _ ← char '.'
  expecting ["digit"] (must anyDigits)

def decimals : Scanner Decimals := do
  let (negative, whole) ← decimalInteger
  orElse
    (do
      let power ← exponent
      pure { negative := negative, whole := whole, exponent := power })
    (do
      let places ← fraction
      let power ← optional exponent
      pure { negative := negative, whole := whole, fraction := places, exponent := power.getD 0 })

/-- The nearest double. Sizes far outside the range of doubles are not computed. -/
def Decimals.toFloat (number : Decimals) : Float :=
  let digits := number.whole ++ number.fraction
  let mantissa := ofDigits digits
  let power := number.exponent - (number.fraction.length : Int)
  let size :=
    if mantissa = 0 then 0.0
    else if 400 < power + (digits.length : Int) then
      if 400 < power + ((Decimal.digits mantissa).length : Int) then 1.0 / 0.0
      else Float.ofScientific mantissa (decide (power < 0)) power.natAbs
    else if power + (digits.length : Int) < -400 then 0.0
    else Float.ofScientific mantissa (decide (power < 0)) power.natAbs
  if number.negative then -size else size

def isInfinity (x : Float) : Bool := x.isInf && 0 < x

def plainReal : Scanner Float := fun cursor =>
  match decimals cursor with
  | .found number after =>
      if isInfinity number.toFloat then .broken ⟨cursor, [], none⟩
      else .found number.toFloat after
  | .missed problem => .missed problem
  | .broken problem => .broken problem

def infinity : Scanner Float := do
  word "inf"
  pure (1.0 / 0.0)

def notANumber : Scanner Float := do
  word "nan"
  pure (0.0 / 0.0)

def specialReal : Scanner Float := do
  let sign ← optional (one isSign)
  let value ← orElse infinity notANumber
  pure (if sign == some '-' then -value else value)

def real : Scanner Float := labelled "floating-point number" (orElse plainReal specialReal)

/-- A fixed number of digits with a value in a range. -/
def digitsBetween (width low high : Nat) : Scanner Nat :=
  meaning (takeBetween width width isDigit) fun digits =>
    if low ≤ ofDigits digits && ofDigits digits ≤ high then .ok (ofDigits digits)
    else .error outOfRange

def daysIn (year month : Nat) : Nat :=
  if month = 2 then if year % 4 = 0 && (year % 100 != 0 || year % 400 = 0) then 29 else 28
  else if month = 4 || month = 6 || month = 9 || month = 11 then 30
  else 31

def fullDate : Scanner Unit := do
  let year ← digitsBetween 4 0 9999
  let _ ← char '-'
  must do
    let month ← digitsBetween 2 1 12
    let _ ← char '-'
    let _ ← meaning (digitsBetween 2 1 31) fun day =>
      if day ≤ daysIn year month then .ok day else .error outOfRange

def partialTime : Scanner Unit := do
  let _ ← digitsBetween 2 0 23
  let _ ← char ':'
  must do
    let _ ← digitsBetween 2 0 59
    let _ ← char ':'
    let _ ← digitsBetween 2 0 60
    let _ ← optional do
      let _ ← char '.'
      takeSome isDigit

def timeOffset : Scanner Unit :=
  labelled "time offset" <| orElse (do let _ ← one fun c => c == 'Z' || c == 'z') do
    let _ ← one isSign
    must do
      let _ ← digitsBetween 2 0 23
      let _ ← char ':'
      let _ ← digitsBetween 2 0 59

/-- A date, a time, or both; its value is not kept. -/
def moment : Scanner Unit :=
  orElse
    (labelled "date-time" do
      fullDate
      let _ ← optional do
        let _ ← one fun c => c == 'T' || c == 't' || c == ' '
        partialTime
        let _ ← optional timeOffset)
    (labelled "time" partialTime)

end DevlogGraph.Toml
