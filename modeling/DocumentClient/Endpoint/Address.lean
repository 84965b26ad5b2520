import DocumentClient.Text.Numeral
import DocumentClient.Text.Split

/-!
# DocumentClient.Endpoint.Address

**Which texts are internet addresses.** An address of version 4 has one to four parts in decimal,
octal or hexadecimal, of which the last covers all bytes that are left; one of version 6 has eight
pieces of hexadecimal digits, a run of which may be left out.

* A host whose last part is a number is an address of version 4 or nothing: it is never looked up
  as a name (`endsInNumber`). So the last part of a name may not be a number, and one that is too
  large makes the host unusable.
* Version 6 stands in brackets. Its last two pieces may be written as four octets, which are
  decimal and have no zeros in front (`isDottedQuad`), unlike the parts of version 4.
* `arePieces` reads pieces from the left and knows only how many there were and whether a run was
  left out. It recurses on fuel, for which the length of the text suffices.
-/

namespace DocumentClient.Endpoint

/-- Is the character a hexadecimal digit? -/
def isHexDigit (c : Char) : Bool :=
  c.isDigit || ('a' ≤ c && c ≤ 'f') || ('A' ≤ c && c ≤ 'F')

/-- The value of a hexadecimal digit; of any other character zero. -/
def hexDigitValue (c : Char) : Nat :=
  if c.isDigit then c.toNat - '0'.toNat
  else if 'a' ≤ c then c.toNat - 'a'.toNat + 10
  else c.toNat - 'A'.toNat + 10

/-! ## Version 4 -/

/-- The number that digits denote to a base. -/
def numberOf (base : Nat) (digits : List Char) : Nat :=
  digits.foldl (fun n c => base * n + hexDigitValue c) 0

/-- The number that a part of an address denotes: hexadecimal after `0x`, octal after another
zero, else decimal. A bare `0x` is zero. -/
def partNumber? (part : List Char) : Option Nat :=
  let ofDigits := fun base (accepts : Char → Bool) (digits : List Char) =>
    if digits.all accepts then some (numberOf base digits) else none
  match part with
  | [] => none
  | '0' :: 'x' :: digits => ofDigits 16 isHexDigit digits
  | '0' :: 'X' :: digits => ofDigits 16 isHexDigit digits
  | '0' :: c :: digits => ofDigits 8 (fun d => '0' ≤ d && d ≤ '7') (c :: digits)
  | digits => ofDigits 10 Char.isDigit digits

/-- The parts of a host between its points, without an empty one at the end. -/
def hostParts (host : List Char) : List (List Char) :=
  let parts := Text.splitAt '.' host
  if parts.getLast? = some [] then parts.dropLast else parts

/-- Does the last part of a host make it an address: is it digits only, or a number? -/
def endsInNumber (host : List Char) : Bool :=
  match (hostParts host).getLast? with
  | none => false
  | some last => (!last.isEmpty && last.all Char.isDigit) || (partNumber? last).isSome

/-- Is the host an address of version 4: at most four numbers, all but the last below 256, and
the last within the bytes that are left? -/
def isAddress4 (host : List Char) : Bool :=
  let parts := hostParts host
  parts.length ≤ 4 &&
    match parts.mapM partNumber? with
    | none => false
    | some numbers =>
      match numbers.getLast? with
      | none => false
      | some last =>
        numbers.dropLast.all (· < 256) && last < Nat.pow 256 (5 - numbers.length)

/-! ## Version 6 -/

/-- Is the text a number below 256 in decimal, without leading zeros? -/
def isOctet (part : List Char) : Bool :=
  !part.isEmpty && part.all Char.isDigit && numberOf 10 part < 256 &&
    (part.length == 1 || part.head? != some '0')

/-- Are these four octets with points between them? -/
def isDottedQuad (cs : List Char) : Bool :=
  let parts := Text.splitAt '.' cs
  parts.length == 4 && parts.all isOctet

/-- Reads pieces after `count` of them; `omitted` tells that a run of pieces was left out. Four
octets may stand for the last two pieces. Every step spends one unit of `fuel`; the length of
the text suffices. -/
def arePieces : Nat → Nat → Bool → List Char → Bool
  | _, count, omitted, [] => omitted || count == 8
  | 0, _, _, _ => false
  | fuel + 1, count, omitted, ':' :: rest =>
    count < 8 && !omitted && arePieces fuel (count + 1) true rest
  | fuel + 1, count, omitted, cs =>
    let digits := (cs.take 4).takeWhile isHexDigit
    count < 8 &&
      match cs.drop digits.length with
      | [] => omitted || count == 7
      | '.' :: _ => !digits.isEmpty && count ≤ 6 && isDottedQuad cs && (omitted || count == 6)
      | ':' :: rest => !rest.isEmpty && arePieces fuel (count + 1) omitted rest
      | _ => false

/-- Is the text an address of version 6? A text that starts with a colon starts with two. -/
def isAddress6 (cs : List Char) : Bool :=
  match cs with
  | [] | [_] => false
  | ':' :: ':' :: rest => arePieces rest.length 1 true rest
  | ':' :: _ => false
  | cs => arePieces cs.length 0 false cs

end DocumentClient.Endpoint
