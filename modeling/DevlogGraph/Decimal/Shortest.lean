import DevlogGraph.Decimal.Digits

/-! The shortest decimal that reads back as a given double, and two ways to write it. -/
namespace DevlogGraph.Decimal

/-- A finite double's magnitude is `mantissa * 2 ^ exponent`. -/
structure Magnitude where
  mantissa : Nat
  exponent : Int
  /-- The gap to the next smaller double is half the gap to the next larger one. -/
  narrowBelow : Bool

def magnitude (x : Float) : Magnitude :=
  let bits := x.toBits.toNat
  let fraction : Nat := bits % Nat.pow 2 52
  let field : Nat := bits / Nat.pow 2 52 % Nat.pow 2 11
  if field = 0 then ⟨fraction, -1074, false⟩
  else ⟨Nat.pow 2 52 + fraction, (field : Int) - 1075, fraction = 0 && 1 < field⟩

/-- The fraction `top / bottom`. -/
structure Ratio where
  top : Nat
  bottom : Nat

/-- `n * 2 ^ two * 10 ^ ten` for signed powers. -/
def Ratio.scaled (n : Nat) (two ten : Int) : Ratio where
  top := n * Nat.pow 2 two.toNat * Nat.pow 10 ten.toNat
  bottom := Nat.pow 2 (-two).toNat * Nat.pow 10 (-ten).toNat

/-- The exponent of the leading decimal digit of a positive fraction. -/
def Ratio.leading (ratio : Ratio) : Int :=
  if ratio.bottom ≤ ratio.top then ((digits (ratio.top / ratio.bottom)).length : Int) - 1
  else
    let places := (digits (ratio.bottom / ratio.top)).length
    if ratio.bottom ≤ ratio.top * Nat.pow 10 (places - 1) then -((places : Int) - 1) else -(places : Int)

/-- A decimal `digits * 10 ^ exponent`. -/
structure Scientific where
  digits : Nat
  exponent : Int

/-- The points of the grid `10 ^ exponent` next to the magnitude that read back as it, the nearer
one first and the even one on a tie. -/
def readingBack (m : Magnitude) (exponent : Int) : Option Scientific :=
  let quarter (n : Nat) := Ratio.scaled n (m.exponent - 2) (-exponent)
  let exact := quarter (4 * m.mantissa)
  let low := quarter (4 * m.mantissa - if m.narrowBelow then 1 else 2)
  let high := quarter (4 * m.mantissa + 2)
  let inside (point : Nat) : Bool :=
    if m.mantissa % 2 = 0 then
      low.top ≤ point * low.bottom && point * high.bottom ≤ high.top
    else low.top < point * low.bottom && point * high.bottom < high.top
  let below := exact.top / exact.bottom
  let rest := exact.top % exact.bottom
  let nearer :=
    if 2 * rest < exact.bottom then [below, below + 1]
    else if exact.bottom < 2 * rest then [below + 1, below]
    else if below % 2 = 0 then [below, below + 1] else [below + 1, below]
  ((nearer.filter fun point => 0 < point).find? inside).map (⟨·, exponent⟩)

/-- Try grids from coarse to fine. -/
def firstReadingBack (m : Magnitude) : Nat → Int → Scientific
  | 0, exponent => ⟨0, exponent⟩
  | tries + 1, exponent =>
      match readingBack m exponent with
      | some found => found
      | none => firstReadingBack m tries (exponent - 1)

/-- Drop zeros at the end of the digits. -/
def withoutZeros : Nat → Nat → Int → Scientific
  | 0, n, exponent => ⟨n, exponent⟩
  | steps + 1, n, exponent =>
      if n % 10 = 0 && n != 0 then withoutZeros steps (n / 10) (exponent + 1) else ⟨n, exponent⟩

/-- The decimal with the fewest digits that reads back as the magnitude of `x`. -/
def shortest (x : Float) : Scientific :=
  let m := magnitude x
  if m.mantissa = 0 then ⟨0, 0⟩
  else
    let leading := (Ratio.scaled m.mantissa m.exponent 0).leading
    let found := firstReadingBack m 18 leading
    withoutZeros 20 found.digits found.exponent

def isNegative (x : Float) : Bool := Nat.pow 2 63 ≤ x.toBits.toNat

def signText (x : Float) : List Char := if isNegative x then ['-'] else []

/-- Digits with the point where it belongs, always with at least one place after it. -/
def pointed (number : Scientific) : List Char :=
  let ds := digits number.digits
  if 0 ≤ number.exponent then ds ++ List.replicate number.exponent.toNat '0' ++ ['.', '0']
  else
    let places := (-number.exponent).toNat
    if places < ds.length then ds.take (ds.length - places) ++ '.' :: ds.drop (ds.length - places)
    else '0' :: '.' :: List.replicate (places - ds.length) '0' ++ ds

/-- One digit before the point, and the exponent with its sign. -/
def withExponent (number : Scientific) : List Char :=
  let ds := digits number.digits
  let exponent := number.exponent + (ds.length : Int) - 1
  ds.take 1 ++ (if 1 < ds.length then '.' :: ds.drop 1 else []) ++ 'e' ::
    (if exponent < 0 then '-' else '+') :: digits exponent.natAbs

/-- Positional for leading digits from `10 ^ -5` to `10 ^ 15`, else with an exponent. -/
def compactText (x : Float) : String :=
  let number := shortest x
  let leading := number.exponent + ((digits number.digits).length : Int) - 1
  String.ofList (signText x ++
    if number.digits = 0 || (-5 ≤ leading && leading ≤ 15) then pointed number
    else withExponent number)

/-- Positional whatever the size. -/
def positionalText (x : Float) : String :=
  if x.isNaN then "NaN"
  else if x.isInf then String.ofList (signText x ++ "inf".toList)
  else String.ofList (signText x ++ pointed (shortest x))

end DevlogGraph.Decimal
