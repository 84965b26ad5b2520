/-!
# DocumentClient.Decimal.Binary64

**Binary floating-point numbers of 64 bits**, without NaN, as a sign and a magnitude. The magnitude
is the word without its sign bit, so magnitudes are ordered as the values are, and comparing numbers
is comparing the signed magnitudes (`Binary64.rank`).

* Every finite number is a whole multiple of the least positive one (`Binary64.units`). Arithmetic
  is done exactly on those multiples and rounded once, to the nearest number and on a tie to the
  even one (`roundUnits`).
* Rounding may reach the magnitude of infinity, which is where the finite ones end. So overflow
  needs no case of its own.
* Powers of ten are rounded when they are made, and what is scaled by one is rounded again
  (`scaleDown`, `ofScaled?`). A decimal with a large exponent is therefore not always read as the
  nearest number; which one it is read as is part of what is described here.
-/

namespace DocumentClient

/-- A binary64 number: its sign, and the word of its exponent and fraction. -/
structure Binary64 where
  /-- Is the sign bit set? Zero has both signs. -/
  negative : Bool
  /-- The 63 bits below the sign bit. -/
  magnitude : Nat
  deriving DecidableEq, Repr, Inhabited

namespace Binary64

/-- The leading bit of a significand, which the word of a number leaves out: it has 52 bits
after it. -/
def hiddenBit : Nat := 0x10000000000000

/-- The magnitude of infinity, above that of every finite number. -/
def infinity : Nat := 2047 * hiddenBit

/-- The exponent of the least positive number, without its sign. -/
def leastExponent : Nat := 1074

/-- How many of the least positive numbers make up the number one. -/
def unitsPerOne : Nat := Nat.pow 2 leastExponent

/-- Positive zero. -/
def zero : Binary64 := ⟨false, 0⟩

/-- Is the number neither infinity? -/
def isFinite (x : Binary64) : Bool :=
  x.magnitude < infinity

/-- The significand as a whole number, of 53 bits unless the number is subnormal. -/
def significand (x : Binary64) : Nat :=
  if x.magnitude < hiddenBit then x.magnitude else hiddenBit + x.magnitude % hiddenBit

/-- The power of two by which the significand is scaled, counted from the least one. -/
def scale (x : Binary64) : Nat :=
  x.magnitude / hiddenBit - 1

/-- The absolute value of a finite number, in multiples of the least positive number. -/
def units (x : Binary64) : Nat :=
  x.significand * Nat.pow 2 x.scale

/-- The value of a finite number, in multiples of the least positive number. -/
def signedUnits (x : Binary64) : Int :=
  if x.negative then -(x.units : Int) else x.units

/-! ## Comparing -/

/-- The signed magnitude. It is ordered as the values are, and both zeros have rank zero. -/
def rank (x : Binary64) : Int :=
  if x.negative then -(x.magnitude : Int) else x.magnitude

/-- Equality of values: the two zeros are equal. -/
def equiv (x y : Binary64) : Bool :=
  x.rank == y.rank

/-- Is the first value less than the second? -/
def lt (x y : Binary64) : Bool :=
  x.rank < y.rank

/-- The same number without a sign on zero. -/
def withoutNegativeZero (x : Binary64) : Binary64 :=
  if x.magnitude = 0 then zero else x

/-! ## Rounding -/

/-- A quotient rounded to the nearest whole number, a tie to the even one. -/
def roundDiv (num den : Nat) : Nat :=
  let quotient := num / den
  let twice := 2 * (num % den)
  if twice < den then quotient
  else if twice > den then quotient + 1
  else quotient + quotient % 2

/-- The magnitude nearest to `num / den` multiples of the least positive number. -/
def roundUnits (num den : Nat) : Nat :=
  let scale := Nat.log2 (num / den) - 52
  min infinity (scale * hiddenBit + roundDiv num (den * Nat.pow 2 scale))

/-- The number nearest to a whole number. -/
def ofNat (n : Nat) : Binary64 :=
  ⟨false, roundUnits (n * unitsPerOne) 1⟩

/-- The number nearest to an integer. -/
def ofInt (i : Int) : Binary64 :=
  ⟨i < 0, (ofNat i.natAbs).magnitude⟩

/-! ## Arithmetic -/

/-- The opposite number. -/
def neg (x : Binary64) : Binary64 :=
  ⟨!x.negative, x.magnitude⟩

/-- The sum, rounded once; an infinite operand is the result. -/
def add (x y : Binary64) : Binary64 :=
  if !x.isFinite then x
  else if !y.isFinite then y
  else
    let sum := x.signedUnits + y.signedUnits
    if sum = 0 then ⟨x.negative && y.negative, 0⟩
    else ⟨sum < 0, roundUnits sum.natAbs 1⟩

/-- The product of finite numbers, rounded once. -/
def mul (x y : Binary64) : Binary64 :=
  ⟨x.negative != y.negative, roundUnits (x.units * y.units) unitsPerOne⟩

/-- The quotient of finite numbers by a number other than zero, rounded once. -/
def div (x y : Binary64) : Binary64 :=
  ⟨x.negative != y.negative, roundUnits (x.units * unitsPerOne) y.units⟩

/-- The sum of several numbers, added from left to right. -/
def sum (xs : List Binary64) : Binary64 :=
  xs.foldl add zero

/-! ## Powers of ten -/

/-- The largest exponent of a power of ten that is finite. -/
def maxDecimalExponent : Nat := 308

/-- The number nearest to a power of ten. -/
def tenTo (exponent : Nat) : Binary64 :=
  ofNat (Nat.pow 10 exponent)

/-- Scales a number down by a power of ten, in steps of at most `10 ^ 308`; every step rounds. -/
def scaleDown : Nat → Binary64 → Nat → Binary64
  | 0, x, _ => ⟨x.negative, 0⟩
  | steps + 1, x, exponent =>
    if exponent ≤ maxDecimalExponent then x.div (tenTo exponent)
    else scaleDown steps (x.div (tenTo maxDecimalExponent)) (exponent - maxDecimalExponent)

/-- A whole number times a power of ten: the whole number is rounded first, and each scaling
after it. Three steps down leave nothing of a word of 64 bits. Refuses what is infinite. -/
def ofScaled? (n : Nat) (exponent : Int) : Option Binary64 :=
  let x := ofNat n
  match exponent with
  | .negSucc e => some (scaleDown 3 x (e + 1))
  | .ofNat e =>
    if n = 0 then some zero
    else if e ≤ maxDecimalExponent then
      let y := x.mul (tenTo e)
      if y.isFinite then some y else none
    else none

end Binary64

end DocumentClient
