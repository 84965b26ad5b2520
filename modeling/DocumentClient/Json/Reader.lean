import DocumentClient.Json.Value
import DocumentClient.Text.Numeral

/-!
# DocumentClient.Json.Reader

**Reading JSON text.** Whole numbers within the words of 64 bits stay whole; every other number
becomes a binary64 one. Of two fields of one name the later wins. What surrounds a value may only be
blanks.

* The functions take the text that is left and return it after what they read, so each of them can
  be understood by itself: `readText` for texts, `readNumber` for numbers, `readValue` for the
  rest.
* A character beyond the first plane is escaped as two units, which only make sense together
  (`pairChar?`). Neither unit is a character alone.
* Digits are collected into a word of 64 bits, and those that do not fit are only counted
  (`Collected`). What they would add to a number is lost, as it is in `floatValue`.
* Lists and objects nest, and every value in them may have blanks around it. The recursion is on
  fuel, for which the length of the text suffices, as every step reads a character.
-/

namespace DocumentClient.Json

/-- The text after blanks between tokens. -/
def skipBlanks : List Char → List Char
  | [] => []
  | c :: cs => if c = ' ' ∨ c = '\n' ∨ c = '\t' ∨ c = '\r' then skipBlanks cs else c :: cs

/-! ## Texts -/

/-- The value of a hexadecimal digit. -/
def hexValue? (c : Char) : Option Nat :=
  if '0' ≤ c ∧ c ≤ '9' then some (c.toNat - '0'.toNat)
  else if 'a' ≤ c ∧ c ≤ 'f' then some (c.toNat - 'a'.toNat + 10)
  else if 'A' ≤ c ∧ c ≤ 'F' then some (c.toNat - 'A'.toNat + 10)
  else none

/-- The value of four hexadecimal digits. -/
def hexWord? (a b c d : Char) : Option Nat := do
  let a ← hexValue? a
  let b ← hexValue? b
  let c ← hexValue? c
  let d ← hexValue? d
  return ((a * 16 + b) * 16 + c) * 16 + d

/-- The character of a UTF-16 unit that is no surrogate. -/
def unitChar? (unit : Nat) : Option Char :=
  if 0xD800 ≤ unit ∧ unit < 0xE000 then none else some (Char.ofNat unit)

/-- The character of a high and a low surrogate. -/
def pairChar? (high low : Nat) : Option Char :=
  if 0xD800 ≤ high ∧ high < 0xDC00 ∧ 0xDC00 ≤ low ∧ low < 0xE000 then
    some (Char.ofNat (0x10000 + (high - 0xD800) * 0x400 + (low - 0xDC00)))
  else none

/-- The character that a one-letter escape stands for. -/
def escapeChar? : Char → Option Char
  | '"' => some '"'
  | '\\' => some '\\'
  | '/' => some '/'
  | 'b' => some '\x08'
  | 'f' => some '\x0c'
  | 'n' => some '\n'
  | 'r' => some '\r'
  | 't' => some '\t'
  | _ => none

/-- Reads the rest of a text, after its opening quote; `read` holds its characters so far,
the last one first. -/
def readText (read : List Char) : List Char → Option (String × List Char)
  | [] => none
  | '"' :: rest => some (String.ofList read.reverse, rest)
  | '\\' :: 'u' :: a :: b :: c :: d :: rest =>
    match hexWord? a b c d with
    | none => none
    | some unit =>
      match unitChar? unit with
      | some char => readText (char :: read) rest
      | none =>
        match rest with
        | '\\' :: 'u' :: e :: f :: g :: h :: rest =>
          match (hexWord? e f g h).bind (pairChar? unit) with
          | some char => readText (char :: read) rest
          | none => none
        | _ => none
  | '\\' :: c :: rest =>
    match escapeChar? c with
    | some char => readText (char :: read) rest
    | none => none
  | c :: rest => if c.toNat < 0x20 then none else readText (c :: read) rest

/-! ## Numbers -/

/-- Digits collected into a word of 64 bits. -/
structure Collected where
  /-- The number made by the digits that still fit. -/
  word : Nat
  /-- How many digits fit. -/
  kept : Nat
  /-- How many digits came after the first that did not fit, itself included. -/
  dropped : Nat

/-- Adds one digit, unless an earlier one did not fit or this one does not. -/
def Collected.push (c : Collected) (d : Nat) : Collected :=
  if c.dropped = 0 ∧ 10 * c.word + d ≤ Word.max64 then
    { c with word := 10 * c.word + d, kept := c.kept + 1 }
  else { c with dropped := c.dropped + 1 }

/-- Collects digits after a word. -/
def collect (word : Nat) (digits : List Char) : Collected :=
  (digits.filterMap Text.digit?).foldl Collected.push { word := word, kept := 0, dropped := 0 }

/-- The sign of an exponent and what follows it. -/
def exponentSign : List Char → Bool × List Char
  | '+' :: rest => (false, rest)
  | '-' :: rest => (true, rest)
  | rest => (false, rest)

/-- Reads the exponent of a number, if it has one. -/
def readExponent (cs : List Char) : Option (Option Int × List Char) :=
  match cs with
  | c :: rest =>
    if c = 'e' ∨ c = 'E' then
      let (negative, rest) := exponentSign rest
      let digits := rest.takeWhile Char.isDigit
      if digits.isEmpty then none
      else
        let size : Nat := (digits.filterMap Text.digit?).foldl (fun n d => 10 * n + d) 0
        some (some (if negative then -(size : Int) else size), rest.dropWhile Char.isDigit)
    else some (none, cs)
  | [] => some (none, [])

/-- The value of a number that has a fraction or an exponent, or is too large for a word. Digits
of the whole part that do not fit count as powers of ten; those of the fraction are dropped. -/
def floatValue (negative : Bool) (whole fraction : List Char) (exponent : Int) : Option Json :=
  let integral := collect 0 whole
  let all := collect integral.word fraction
  let x := Binary64.ofScaled? all.word ((integral.dropped : Int) - (all.kept : Int) + exponent)
  x.map fun x => .float (if negative then x.neg else x)

/-- The value of a number without fraction and exponent. Minus zero is a floating-point number,
and so is a number below the signed words. -/
def wholeValue (negative : Bool) (whole : List Char) : Option Json :=
  let integral := collect 0 whole
  if 0 < integral.dropped then floatValue negative whole [] 0
  else if !negative then some (.int integral.word)
  else if integral.word = 0 ∨ Word.maxSigned64 + 1 < integral.word then
    some (.float (Binary64.ofNat integral.word).neg)
  else some (.int (-(integral.word : Int)))

/-- Reads a number after its sign. -/
def readUnsigned (negative : Bool) (cs : List Char) : Option (Json × List Char) := do
  let whole := cs.takeWhile Char.isDigit
  let rest := cs.dropWhile Char.isDigit
  if whole.isEmpty ∨ (1 < whole.length ∧ whole.head? = some '0') then none
  else
    match rest with
    | '.' :: rest =>
      let fraction := rest.takeWhile Char.isDigit
      if fraction.isEmpty then none
      else
        let (exponent, rest) ← readExponent (rest.dropWhile Char.isDigit)
        let value ← floatValue negative whole fraction (exponent.getD 0)
        return (value, rest)
    | _ =>
      let (exponent, rest) ← readExponent rest
      let value ←
        match exponent with
        | some e => floatValue negative whole [] e
        | none => wholeValue negative whole
      return (value, rest)

/-- Reads a number. -/
def readNumber : List Char → Option (Json × List Char)
  | '-' :: rest => readUnsigned true rest
  | cs => readUnsigned false cs

/-! ## Values -/

/-- What follows a given word. -/
def afterWord (word : String) (value : Json) (cs : List Char) : Option (Json × List Char) :=
  (word.toList.isPrefixOf? cs).map fun rest => (value, rest)

mutual
/-- Reads one value. Every call spends one unit of `fuel`; the length of the text suffices. -/
def readValue : Nat → List Char → Option (Json × List Char)
  | 0, _ => none
  | fuel + 1, cs =>
    match skipBlanks cs with
    | '"' :: rest => (readText [] rest).map fun (s, rest) => (.str s, rest)
    | '[' :: rest =>
      match skipBlanks rest with
      | ']' :: rest => some (.arr [], rest)
      | _ => (readItems fuel [] rest).map fun (items, rest) => (.arr items, rest)
    | '\x7b' :: rest =>
      match skipBlanks rest with
      | '\x7d' :: rest => some (.obj [], rest)
      | _ => (readFields fuel [] rest).map fun (fields, rest) => (.obj fields, rest)
    | 'n' :: rest => afterWord "ull" .null rest
    | 't' :: rest => afterWord "rue" (.bool true) rest
    | 'f' :: rest => afterWord "alse" (.bool false) rest
    | cs => readNumber cs
/-- Reads the items of a list up to its closing bracket, the last one first in `read`. -/
def readItems : Nat → List Json → List Char → Option (List Json × List Char)
  | 0, _, _ => none
  | fuel + 1, read, cs =>
    match readValue fuel cs with
    | none => none
    | some (value, rest) =>
      match skipBlanks rest with
      | ',' :: rest => readItems fuel (value :: read) rest
      | ']' :: rest => some ((value :: read).reverse, rest)
      | _ => none
/-- Reads the fields of an object up to its closing bracket. -/
def readFields : Nat → List (String × Json) → List Char →
    Option (List (String × Json) × List Char)
  | 0, _, _ => none
  | fuel + 1, read, cs =>
    match skipBlanks cs with
    | '"' :: rest =>
      match readText [] rest with
      | none => none
      | some (name, rest) =>
        match skipBlanks rest with
        | ':' :: rest =>
          match readValue fuel rest with
          | none => none
          | some (value, rest) =>
            match skipBlanks rest with
            | ',' :: rest => readFields fuel (Keyed.insert name value read) rest
            | '\x7d' :: rest => some (Keyed.insert name value read, rest)
            | _ => none
        | _ => none
    | _ => none
end

/-- The value a text denotes, if it is JSON and nothing but blanks surround it. -/
def parse? (text : String) : Option Json :=
  let cs := text.toList
  match readValue (cs.length + 1) cs with
  | some (value, rest) => if (skipBlanks rest).isEmpty then some value else none
  | none => none

end DocumentClient.Json
