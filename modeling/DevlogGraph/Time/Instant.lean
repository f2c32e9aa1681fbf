import DevlogGraph.Decimal.Digits
import DevlogGraph.Text.Blank
import DevlogGraph.Text.Width
import DevlogGraph.Time.Calendar

/-! Instants in universal time, written as in `2024-06-01T12:30:45.500Z`. Reading accepts any
offset, blanks between the parts, and a leap second. -/
namespace DevlogGraph.Time

structure Instant where
  date : Date
  hour : Nat
  minute : Nat
  /-- Sixty in a leap second. -/
  second : Nat
  nano : Nat
  deriving DecidableEq

/-- Why a text is not an instant. -/
inductive Problem where
  | outOfRange
  | impossible
  | invalid
  | tooShort
  | tooLong
  deriving DecidableEq

def Problem.message : Problem → String
  | outOfRange => "input is out of range"
  | impossible => "no possible date and time matching input"
  | invalid => "input contains invalid characters"
  | tooShort => "premature end of input"
  | tooLong => "trailing input"

open Text Decimal

/-- The fraction in as few groups of three digits as hold it. -/
def fractionText (nano : Nat) : List Char :=
  if nano = 0 then []
  else if nano % 1000000 = 0 then '.' :: padded 3 (nano / 1000000)
  else if nano % 1000 = 0 then '.' :: padded 6 (nano / 1000)
  else '.' :: padded 9 nano

/-- Four digits; a year outside them has a sign. -/
def yearText (year : Int) : List Char :=
  if 0 ≤ year && year ≤ 9999 then padded 4 year.toNat
  else (if year < 0 then '-' else '+') :: padded 4 year.natAbs

def Instant.write (instant : Instant) : String :=
  String.ofList (yearText instant.date.year ++ '-' :: padded 2 instant.date.month ++
    '-' :: padded 2 instant.date.day ++ 'T' :: padded 2 instant.hour ++
    ':' :: padded 2 instant.minute ++ ':' :: padded 2 instant.second ++
    fractionText instant.nano ++ ['Z'])

/-- At most `width` digits and at least one. -/
def readNumber (width : Nat) (text : List Char) : Except Problem (Nat × List Char) :=
  match text with
  | [] => .error .tooShort
  | c :: _ =>
      if !isDigit c then .error .invalid
      else
        let found := (text.take width).takeWhile isDigit
        .ok (ofDigits found, text.drop found.length)

/-- A number in a range, with blanks before it. -/
def readBetween (low high : Nat) (text : List Char) : Except Problem (Nat × List Char) := do
  let (value, rest) ← readNumber 2 (trimStart text)
  if low ≤ value && value ≤ high then pure (value, rest) else throw .outOfRange

/-- Four digits, or any number of them behind a sign. -/
def readYear (text : List Char) : Except Problem (Int × List Char) := do
  match trimStart text with
  | '-' :: rest =>
      let (value, rest') ← readNumber rest.length rest
      if value ≤ Nat.pow 2 31 then pure (-(value : Int), rest') else throw .outOfRange
  | '+' :: rest =>
      let (value, rest') ← readNumber rest.length rest
      if value < Nat.pow 2 31 then pure ((value : Int), rest') else throw .outOfRange
  | rest =>
      let (value, rest') ← readNumber 4 rest
      pure ((value : Int), rest')

/-- A separator, with blanks before it. -/
def readMark (mark : Char) (text : List Char) : Except Problem (List Char) :=
  match trimStart text with
  | [] => .error .tooShort
  | c :: rest => if c = mark then .ok rest else .error .invalid

/-- A fraction of a second in nanoseconds; digits after the ninth are passed over. -/
def readFraction (text : List Char) : Except Problem (Nat × List Char) :=
  match text with
  | '.' :: rest => do
      let (value, rest') ← readNumber 9 rest
      let used := rest.length - rest'.length
      pure (value * Nat.pow 10 (9 - used), rest'.dropWhile isDigit)
  | rest => .ok (0, rest)

/-- Two characters that are digits, the first at most `high`. -/
def readPair (high : Nat) (text : List Char) : Except Problem (Nat × List Char) :=
  if byteCount text < 2 then .error .tooShort
  else match text with
    | a :: b :: rest =>
        if isDigit a && isDigit b then
          if digitValue a ≤ high then .ok (digitValue a * 10 + digitValue b, rest)
          else .error .outOfRange
        else .error .invalid
    | _ => .error .invalid

def isSameLetter (a b : Char) : Bool := a.toLower == b.toLower

/-- An offset from universal time in minutes: `Z`, `UTC`, or hours and minutes with a sign. -/
def readOffset (text : List Char) : Except Problem (Int × List Char) :=
  match text with
  | [] => .error .tooShort
  | 'Z' :: rest => .ok (0, rest)
  | 'z' :: rest => .ok (0, rest)
  | sign :: rest =>
      if (text.take 3).length = 3 &&
          (List.zipWith isSameLetter (text.take 3) ['u', 't', 'c']).all id then
        .ok (0, text.drop 3)
      else if sign ≠ '+' ∧ sign ≠ '-' ∧ sign ≠ '−' then .error .invalid
      else do
        let (hours, rest) ← readPair 9 rest
        let (minutes, rest) ← readPair 5 (rest.dropWhile fun c => c == ':' || isBlank c)
        let size : Int := (hours * 60 + minutes : Nat)
        pure (if sign = '+' then size else -size, rest)

/-- Move a local time to universal time; the offset is less than a day. -/
def toUniversal (date : Date) (hour minute : Nat) (offset : Int) : Date × Nat × Nat :=
  let total := ((hour * 60 + minute : Nat) : Int) - offset
  if total < 0 then (date.previous, (total + 1440).toNat / 60, (total + 1440).toNat % 60)
  else if 1440 ≤ total then (date.next, (total - 1440).toNat / 60, (total - 1440).toNat % 60)
  else (date, total.toNat / 60, total.toNat % 60)

def Instant.read (text : String) : Except Problem Instant := do
  let (year, rest) ← readYear text.toList
  let rest ← readMark '-' rest
  let (month, rest) ← readBetween 1 12 rest
  let rest ← readMark '-' rest
  let (day, rest) ← readBetween 1 31 rest
  let rest ← match rest with
    | [] => throw .tooShort
    | c :: rest => if c = 'T' || c = 't' || c = ' ' then pure rest else throw .invalid
  let (hour, rest) ← readBetween 0 23 rest
  let rest ← readMark ':' rest
  let (minute, rest) ← readBetween 0 59 rest
  let rest ← readMark ':' rest
  let (second, rest) ← readBetween 0 60 rest
  let (nano, rest) ← readFraction rest
  let (offset, rest) ← readOffset (trimStart rest)
  if !(trimStart rest).isEmpty then throw .tooLong
  let date : Date := ⟨year, month, day⟩
  if !date.isValid then throw .outOfRange
  if 1440 ≤ offset.natAbs then throw .outOfRange
  let (date, hour, minute) := toUniversal date hour minute offset
  if !date.isValid then throw .impossible
  pure ⟨date, hour, minute, second, nano⟩

end DevlogGraph.Time
