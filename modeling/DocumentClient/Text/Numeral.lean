/-!
# DocumentClient.Text.Numeral

**Whole numbers in decimal**, and the bounds of the words of fixed width that they are read into.

* `Word` holds the bounds. Numbers are not words here; where a number has to fit into one, the bound
  is checked or what exceeds it is lost, as the rule at hand says.
* Numbers are written without leading zeros. Reading goes digit by digit from the left, and the
  first thing wrong decides the error; so a text that is too large for its word and goes on with
  something else than a digit is only too large.
-/

/-! ## Words -/

namespace DocumentClient.Word

/-- The largest unsigned word of 16 bits. -/
def max16 : Nat := 0xFFFF

/-- The largest unsigned word of 32 bits. -/
def max32 : Nat := 0xFFFFFFFF

/-- The largest unsigned word of 64 bits. -/
def max64 : Nat := 0xFFFFFFFFFFFFFFFF

/-- The largest signed word of 32 bits. -/
def maxSigned32 : Nat := 0x7FFFFFFF

/-- The largest signed word of 64 bits. -/
def maxSigned64 : Nat := 0x7FFFFFFFFFFFFFFF

/-- Is the integer a signed word of 32 bits? -/
def isSigned32 (i : Int) : Bool :=
  -(maxSigned32 + 1 : Int) ≤ i && i ≤ maxSigned32

/-- Is the integer a signed word of 64 bits? -/
def isSigned64 (i : Int) : Bool :=
  -(maxSigned64 + 1 : Int) ≤ i && i ≤ maxSigned64

/-- Is the integer an unsigned word of 64 bits? -/
def isUnsigned64 (i : Int) : Bool :=
  0 ≤ i && i ≤ max64

end DocumentClient.Word

namespace DocumentClient.Text

/-! ## Numerals -/

/-- Why a text is no number of the wanted width. -/
inductive NumeralError where
  /-- There is no character at all. -/
  | empty
  /-- A character is no digit, or there is a sign and nothing else. -/
  | invalidDigit
  /-- The number so far exceeds the bound. -/
  | tooLarge
  deriving DecidableEq, Repr

/-- The wording of a numeral error. -/
def NumeralError.message : NumeralError → String
  | .empty => "cannot parse integer from empty string"
  | .invalidDigit => "invalid digit found in string"
  | .tooLarge => "number too large to fit in target type"

/-- The value of an ASCII digit. -/
def digit? (c : Char) : Option Nat :=
  if '0' ≤ c ∧ c ≤ '9' then some (c.toNat - '0'.toNat) else none

/-- Reads digits after a number that is already known to be within the bound. -/
def readDigits (bound : Nat) : Nat → List Char → Except NumeralError Nat
  | value, [] => .ok value
  | value, c :: cs =>
    match digit? c with
    | none => .error .invalidDigit
    | some d =>
      if 10 * value + d ≤ bound then readDigits bound (10 * value + d) cs
      else .error .tooLarge

/-- Reads a number of at most `bound`: an optional plus sign, then ASCII digits only. -/
def readNumeral (bound : Nat) : List Char → Except NumeralError Nat
  | [] => .error .empty
  | ['+'] => .error .invalidDigit
  | '+' :: cs => readDigits bound 0 cs
  | cs => readDigits bound 0 cs

/-- The decimal digits of a number, without leading zeros. -/
def natChars (n : Nat) : List Char :=
  Nat.toDigits 10 n

/-- The decimal text of a number. -/
def natText (n : Nat) : String :=
  String.ofList (natChars n)

/-- The decimal text of an integer, with a minus sign if it is negative. -/
def intChars : Int → List Char
  | .ofNat n => natChars n
  | .negSucc n => '-' :: natChars (n + 1)

end DocumentClient.Text
