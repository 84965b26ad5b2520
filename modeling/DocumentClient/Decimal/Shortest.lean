import DocumentClient.Decimal.Binary64

/-!
# DocumentClient.Decimal.Shortest

**The shortest decimal that reads back as a given binary64 number.** The numbers that round to it
form an interval, which holds its ends exactly if the significand is even. For 1, 2, … 17 digits the
two neighbours of the number on that decimal grid are tried; the first grid with a neighbour in the
interval wins, of two neighbours the nearer, and of two equally near ones the even one.

* All of it is done in whole numbers: a `Target` has the number and the bounds of its interval
  over one denominator, and `Target.inUnitsOf` counts it in units of a power of ten.
* Just above a power of two the interval is not even on both sides, since the numbers below are
  twice as dense. That is the only reason to have both bounds.
* Seventeen digits are enough for any number, and `Target.search` ends with them at the latest;
  zeros at the end of the digits are moved into the exponent at last.
-/

namespace DocumentClient.Decimal

/-- A decimal: a whole number times a power of ten. -/
structure Scaled where
  /-- The digits, as a whole number. -/
  digits : Nat
  /-- The power of ten. -/
  exponent : Int
  deriving DecidableEq, Repr

/-- A quotient to be read in decimal, with the bounds of the interval around it; all four are
over one denominator. -/
structure Target where
  /-- Numerator of the number itself. -/
  value : Nat
  /-- Numerator of the lower end of the interval. -/
  low : Nat
  /-- Numerator of the upper end of the interval. -/
  high : Nat
  /-- The common denominator. -/
  den : Nat
  /-- Do the ends belong to the interval? -/
  closed : Bool

/-- The interval of a positive finite number. Just above a power of two the numbers below are
twice as dense as those above. -/
def Target.ofBinary64 (x : Binary64) : Target :=
  let step := Nat.pow 2 x.scale
  let value := 4 * x.units
  let below := if x.significand = Binary64.hiddenBit ∧ 0 < x.scale then step else 2 * step
  { value := value, low := value - below, high := value + 2 * step,
    den := 4 * Binary64.unitsPerOne, closed := x.significand % 2 == 0 }

/-- The target counted in units of a power of ten. -/
def Target.inUnitsOf (t : Target) : Int → Target
  | .ofNat e => { t with den := t.den * Nat.pow 10 e }
  | .negSucc e =>
    let factor := Nat.pow 10 (e + 1)
    { t with value := t.value * factor, low := t.low * factor, high := t.high * factor }

/-- Does a whole number lie in the interval? -/
def Target.admits (t : Target) (n : Nat) : Bool :=
  if t.closed then t.low ≤ n * t.den && n * t.den ≤ t.high
  else t.low < n * t.den && n * t.den < t.high

/-- The nearer of the two whole neighbours that lies in the interval. -/
def Target.neighbour? (t : Target) : Option Nat :=
  let below := t.value / t.den
  let twice := 2 * (t.value % t.den)
  let nearest :=
    if twice < t.den then below
    else if twice > t.den then below + 1
    else below + below % 2
  let other := if nearest = below then below + 1 else below
  if t.admits nearest then some nearest
  else if t.admits other then some other
  else none

/-- How many zeros follow the decimal point of a quotient below one, found by multiplying. -/
def leadingZeros (den : Nat) : Nat → Nat → Nat
  | 0, _ => 0
  | fuel + 1, num => if den ≤ 10 * num then 0 else leadingZeros den fuel (10 * num) + 1

/-- The exponent `e` with `10 ^ (e - 1) ≤ value < 10 ^ e`. -/
def Target.decimalExponent (t : Target) : Int :=
  if t.den ≤ t.value then (Nat.toDigits 10 (t.value / t.den)).length
  else -(leadingZeros t.den 400 t.value : Int)

/-- Tries the grids of `count`, `count + 1`, … digits. -/
def Target.search (t : Target) (top : Int) : Nat → Nat → Scaled
  | 0, count =>
    let exponent := top - count
    let s := t.inUnitsOf exponent
    ⟨s.value / s.den, exponent⟩
  | more + 1, count =>
    let exponent := top - count
    match (t.inUnitsOf exponent).neighbour? with
    | some n => ⟨n, exponent⟩
    | none => t.search top more (count + 1)

/-- Moves trailing zeros of the digits into the exponent. -/
def Scaled.stripZeros : Nat → Scaled → Scaled
  | 0, d => d
  | fuel + 1, d =>
    if d.digits ≠ 0 ∧ d.digits % 10 = 0 then stripZeros fuel ⟨d.digits / 10, d.exponent + 1⟩
    else d

/-- The shortest decimal that reads back as a positive finite number. -/
def shortest (x : Binary64) : Scaled :=
  let t := Target.ofBinary64 x
  (t.search t.decimalExponent 17 1).stripZeros 20

end DocumentClient.Decimal
