import DocumentClient.Decimal.Shortest
import DocumentClient.Json.Value
import DocumentClient.Text.Numeral

/-!
# DocumentClient.Json.Printer

**The compact text of a JSON value**: no blanks, fields in order of name. It is what documents are
measured by, and how keys and counts that are no texts appear in messages.

* `writeTo` and its neighbours append to a text that is there already, one for values, one for
  items and one for fields; `compact` starts with none.
* Inside quotes only the quote, the backslash and the controls below the blank are escaped. How
  long a text becomes by that counts for the size of a document, which is in bytes (`size`).
* A floating-point number is written by its shortest decimal, which `FloatLayout.render` lays out:
  positionally from `1e-5` up to `1e16`, with one digit before the point and an exponent
  otherwise. Infinity has no text in JSON and is written as null.
-/

namespace DocumentClient.Json

/-! ## Texts -/

/-- A hexadecimal digit, in lower case. -/
def hexDigit (n : Nat) : Char :=
  (Nat.toDigits 16 n).headD '0'

/-- The characters that stand for one character inside quotes. Only the quote, the backslash
and the control characters below the blank are escaped. -/
def escaped (c : Char) : String :=
  match c with
  | '"' => "\\\""
  | '\\' => "\\\\"
  | '\n' => "\\n"
  | '\r' => "\\r"
  | '\t' => "\\t"
  | '\x08' => "\\b"
  | '\x0c' => "\\f"
  | c =>
    if c.toNat < 0x20 then
      "\\u00" ++ String.ofList [hexDigit (c.toNat / 16), hexDigit (c.toNat % 16)]
    else c.toString

/-- A text in quotes. -/
def quoted (s : String) : String :=
  s.foldl (fun written c => written ++ escaped c) "\"" ++ "\""

/-! ## Numbers -/

/-- How floating-point numbers are written. -/
structure FloatLayout where
  /-- Numbers below this power of ten are written positionally, with a point. -/
  positionalBelow : Int
  /-- Numbers of at least this power of ten are written positionally. -/
  positionalFrom : Int
  /-- Stands between the digits and the exponent when the exponent is positive. -/
  positiveMark : String
  /-- Stands between the digits and the exponent when the exponent is negative. -/
  negativeMark : String

/-- Numbers from `1e-5` up to `1e16` are written positionally, with at least one digit after
the point; all others with one digit before the point and a signed exponent. -/
def floatLayout : FloatLayout :=
  { positionalBelow := 16, positionalFrom := -5, positiveMark := "e+", negativeMark := "e-" }

/-- A decimal as text; its digits are neither empty nor end in a zero. -/
def FloatLayout.render (layout : FloatLayout) (digits : List Char) (exponent : Int) : String :=
  let count := digits.length
  let point := count + exponent
  if layout.positionalFrom < point ∧ point ≤ layout.positionalBelow then
    if 0 ≤ exponent then
      String.ofList (digits ++ List.replicate exponent.toNat '0' ++ ['.', '0'])
    else if 0 < point then
      String.ofList (digits.take point.toNat ++ '.' :: digits.drop point.toNat)
    else
      String.ofList ('0' :: '.' :: List.replicate (-point).toNat '0' ++ digits)
  else
    let power := point - 1
    let fraction := if count = 1 then [] else '.' :: digits.drop 1
    let mark := if 0 ≤ power then layout.positiveMark else layout.negativeMark
    String.ofList (digits.take 1 ++ fraction) ++ mark ++
      String.ofList (Text.natChars power.natAbs)

/-- The text of a floating-point number; an infinite one has none in JSON and is written as
null. -/
def floatText (x : Binary64) : String :=
  let sign := if x.negative then "-" else ""
  if !x.isFinite then "null"
  else if x.magnitude = 0 then sign ++ "0.0"
  else
    let d := Decimal.shortest x
    sign ++ floatLayout.render (Text.natChars d.digits) d.exponent

/-! ## Values -/

mutual
/-- Appends the compact text of a value. -/
def writeTo (written : String) : Json → String
  | .null => written ++ "null"
  | .bool true => written ++ "true"
  | .bool false => written ++ "false"
  | .int i => written ++ String.ofList (Text.intChars i)
  | .float x => written ++ floatText x
  | .str s => written ++ quoted s
  | .arr items => writeItemsTo (written ++ "[") true items ++ "]"
  | .obj fields => writeFieldsTo (written ++ "\x7b") true fields ++ "\x7d"
/-- Appends the compact texts of values, with commas between them. -/
def writeItemsTo (written : String) (first : Bool) : List Json → String
  | [] => written
  | x :: xs => writeItemsTo (writeTo (if first then written else written ++ ",") x) false xs
/-- Appends the fields of an object, with commas between them. -/
def writeFieldsTo (written : String) (first : Bool) : List (String × Json) → String
  | [] => written
  | (k, x) :: xs =>
    writeFieldsTo (writeTo ((if first then written else written ++ ",") ++ quoted k ++ ":") x)
      false xs
end

/-- The compact text of a value. -/
def compact (value : Json) : String :=
  writeTo "" value

/-- The size of the compact text in bytes. -/
def size (value : Json) : Nat :=
  value.compact.utf8ByteSize

end DocumentClient.Json
