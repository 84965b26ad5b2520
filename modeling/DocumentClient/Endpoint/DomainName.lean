import DocumentClient.Endpoint.Address
import DocumentClient.Endpoint.Composition
import DocumentClient.Endpoint.Direction
import DocumentClient.Endpoint.NameMapping
import DocumentClient.Text.CombiningClass
import DocumentClient.Text.Numeral
import DocumentClient.Text.Property
import DocumentClient.Text.Split

/-!
# DocumentClient.Endpoint.DomainName

**Which hosts of an endpoint are well formed.** A host of a web address is an internet address or
the name of a domain, in which bytes may be written as percent escapes; any other host is taken as
it stands, unless it holds a delimiter.

* A label of a name may be encoded in ASCII. The ASCII characters of such a label come first, up to
  its last hyphen; the rest says which characters are inserted where, as numbers of variable length
  to the base 36 (`Punycode.decode?`).
* The two joiners have no glyph, so they may only stand where they change how their neighbours look:
  behind a mark that silences a vowel, and, for the one that keeps letters apart, between letters
  that would be joined without it (`joinersFit`).
* The labels of a name have to fit together besides; that is `areDirectionsClear`.
-/

namespace DocumentClient.Endpoint

open Text

/-! ## Encoded labels -/

namespace Punycode

/-- The base of the digits. -/
def base : Nat := 36

/-- The value of a digit: letters stand for 0 to 25, decimal digits for 26 to 35. -/
def digitValue? (c : Char) : Option Nat :=
  if 'a' ≤ c && c ≤ 'z' then some (c.toNat - 'a'.toNat)
  else if 'A' ≤ c && c ≤ 'Z' then some (c.toNat - 'A'.toNat)
  else if c.isDigit then some (c.toNat - '0'.toNat + 26)
  else none

/-- From which digit on the next one belongs to the same number: between 1 and 26, by the place
of the digit and the current bias. -/
def threshold (place bias : Nat) : Nat :=
  if place ≤ bias + 1 then 1 else if bias + 26 ≤ place then 26 else place - bias

/-- Reads one number, which is added to `sum`, and returns the sum with the digits after it.
Neither the sum nor the weight of a digit may exceed a word of 32 bits. -/
def readNumber (bias : Nat) : (sum weight place : Nat) → List Char → Option (Nat × List Char)
  | _, _, _, [] => none
  | sum, weight, place, c :: cs =>
    match digitValue? c with
    | none => none
    | some digit =>
      let sum := sum + digit * weight
      let limit := threshold place bias
      if Word.max32 < sum then none
      else if digit < limit then some (sum, cs)
      else if Word.max32 < weight * (base - limit) then none
      else readNumber bias sum (weight * (base - limit)) (place + base) cs

/-- Divides a number by 35 until it is small, and counts how often. -/
def reduce (delta : Nat) : Nat × Nat :=
  if 455 < delta then
    let (small, count) := reduce (delta / 35)
    (small, count + 1)
  else (delta, 0)
termination_by delta
decreasing_by omega

/-- The bias after a number: numbers are expected to be about as large as the last one, and the
first to be much larger than the others. -/
def adapt (delta points : Nat) (isFirst : Bool) : Nat :=
  let damped := if isFirst then delta / 700 else delta / 2
  let (small, count) := reduce (damped + damped / points)
  count * base + base * small / (small + 38)

/-- Is the number a code point that a text may hold? -/
def isScalar (n : Nat) : Bool :=
  n < 0xD800 || (0xE000 ≤ n && n < 0x110000)

/-- Inserts characters as the digits say, into those that were read before. Every insertion
spends one unit of `fuel`; the number of digits suffices. -/
def insertAll : (fuel codePoint position bias : Nat) → List Char → List Char →
    Option (List Char)
  | _, _, _, _, read, [] => some read
  | 0, _, _, _, _, _ => none
  | fuel + 1, codePoint, position, bias, read, digits =>
    match readNumber bias position 1 base digits with
    | none => none
    | some (sum, digits) =>
      let points := read.length + 1
      let codePoint := codePoint + sum / points
      let place := sum % points
      if isScalar codePoint then
        insertAll fuel codePoint (place + 1) (adapt (sum - position) points (position == 0))
          (read.take place ++ Char.ofNat codePoint :: read.drop place) digits
      else none

/-- The label that an ASCII label stands for. The first code point to insert is at least 128,
and the first bias is 72. -/
def decode? (label : List Char) : Option (List Char) :=
  match Text.splitLast? '-' label with
  | some ([], _) => none
  | some (ascii, digits) => insertAll digits.length 0x80 0 72 ascii digits
  | none => insertAll label.length 0x80 0 72 [] label

end Punycode

/-! ## Joiners -/

/-- Closed ranges of the code points of letters that join on both sides. -/
def dualJoiningRanges : List (Nat × Nat) :=
  [(0x620, 0x620), (0x626, 0x626), (0x628, 0x628), (0x62A, 0x62E), (0x633, 0x63F),
   (0x641, 0x647), (0x649, 0x64A), (0x66E, 0x66F), (0x678, 0x687), (0x69A, 0x6BF),
   (0x6C1, 0x6C2), (0x6CC, 0x6CC), (0x6CE, 0x6CE), (0x6D0, 0x6D1), (0x6FA, 0x6FC),
   (0x6FF, 0x6FF), (0x712, 0x714), (0x71A, 0x71D), (0x71F, 0x727), (0x729, 0x729),
   (0x72B, 0x72B), (0x72D, 0x72E), (0x74E, 0x758), (0x75C, 0x76A), (0x76D, 0x770),
   (0x772, 0x772), (0x775, 0x777), (0x77A, 0x77F), (0x7CA, 0x7EA), (0x841, 0x845),
   (0x848, 0x848), (0x84A, 0x853), (0x855, 0x855), (0x860, 0x860), (0x862, 0x865),
   (0x868, 0x868), (0x886, 0x886), (0x889, 0x88D), (0x88F, 0x88F), (0x8A0, 0x8A9),
   (0x8AF, 0x8B0), (0x8B3, 0x8B8), (0x8BA, 0x8C8), (0x1807, 0x1807), (0x1820, 0x1878),
   (0x1887, 0x18A8), (0x18AA, 0x18AA), (0xA840, 0xA871), (0x10AC0, 0x10AC4), (0x10AD3, 0x10AD6),
   (0x10AD8, 0x10ADC), (0x10ADE, 0x10AE0), (0x10AEB, 0x10AEE), (0x10B80, 0x10B80),
   (0x10B82, 0x10B82), (0x10B86, 0x10B88), (0x10B8A, 0x10B8B), (0x10B8D, 0x10B8D),
   (0x10B90, 0x10B90), (0x10BAD, 0x10BAE), (0x10D01, 0x10D21), (0x10D23, 0x10D23),
   (0x10EC3, 0x10EC4), (0x10EC6, 0x10EC7), (0x10F30, 0x10F32), (0x10F34, 0x10F44),
   (0x10F51, 0x10F53), (0x10F70, 0x10F73), (0x10F76, 0x10F81), (0x10FB0, 0x10FB0),
   (0x10FB2, 0x10FB3), (0x10FB8, 0x10FB8), (0x10FBB, 0x10FBC), (0x10FBE, 0x10FBF),
   (0x10FC1, 0x10FC1), (0x10FC4, 0x10FC4), (0x10FCA, 0x10FCA), (0x1E900, 0x1E943)]

/-- Closed ranges of the code points of letters that join the one after them only. -/
def leftJoiningRanges : List (Nat × Nat) :=
  [(0xA872, 0xA872), (0x10ACD, 0x10ACD), (0x10AD7, 0x10AD7), (0x10D00, 0x10D00),
   (0x10FCB, 0x10FCB)]

/-- Closed ranges of the code points of letters that join the one before them only. -/
def rightJoiningRanges : List (Nat × Nat) :=
  [(0x622, 0x625), (0x627, 0x627), (0x629, 0x629), (0x62F, 0x632), (0x648, 0x648),
   (0x671, 0x673), (0x675, 0x677), (0x688, 0x699), (0x6C0, 0x6C0), (0x6C3, 0x6CB),
   (0x6CD, 0x6CD), (0x6CF, 0x6CF), (0x6D2, 0x6D3), (0x6D5, 0x6D5), (0x6EE, 0x6EF),
   (0x710, 0x710), (0x715, 0x719), (0x71E, 0x71E), (0x728, 0x728), (0x72A, 0x72A),
   (0x72C, 0x72C), (0x72F, 0x72F), (0x74D, 0x74D), (0x759, 0x75B), (0x76B, 0x76C),
   (0x771, 0x771), (0x773, 0x774), (0x778, 0x779), (0x840, 0x840), (0x846, 0x847),
   (0x849, 0x849), (0x854, 0x854), (0x856, 0x858), (0x867, 0x867), (0x869, 0x86A),
   (0x870, 0x882), (0x88E, 0x88E), (0x8AA, 0x8AC), (0x8AE, 0x8AE), (0x8B1, 0x8B2),
   (0x8B9, 0x8B9), (0x10AC5, 0x10AC5), (0x10AC7, 0x10AC7), (0x10AC9, 0x10ACA),
   (0x10ACE, 0x10AD2), (0x10ADD, 0x10ADD), (0x10AE1, 0x10AE1), (0x10AE4, 0x10AE4),
   (0x10AEF, 0x10AEF), (0x10B81, 0x10B81), (0x10B83, 0x10B85), (0x10B89, 0x10B89),
   (0x10B8C, 0x10B8C), (0x10B8E, 0x10B8F), (0x10B91, 0x10B91), (0x10BA9, 0x10BAC),
   (0x10D22, 0x10D22), (0x10EC2, 0x10EC2), (0x10F33, 0x10F33), (0x10F54, 0x10F54),
   (0x10F74, 0x10F75), (0x10FB4, 0x10FB6), (0x10FB9, 0x10FBA), (0x10FBD, 0x10FBD),
   (0x10FC2, 0x10FC3), (0x10FC9, 0x10FC9)]

/-- Does the letter join the one after it? -/
def joinsNext (c : Char) : Bool :=
  isWithin dualJoiningRanges c || isWithin leftJoiningRanges c

/-- Does the letter join the one before it? -/
def joinsPrevious (c : Char) : Bool :=
  isWithin dualJoiningRanges c || isWithin rightJoiningRanges c

/-- Do letters join across the character? Marks without room of their own are like that, and
so is one modifier letter. -/
def isTransparent (c : Char) : Bool :=
  isNonspacingMark c || c.toNat == 0x1E94B

/-- The character that keeps letters apart. -/
def nonJoiner : Char := '\u200c'

/-- The character that joins letters. -/
def joiner : Char := '\u200d'

/-- May a joiner stand between two texts, the first of which is given with its last character
first? -/
def mayStandBetween (c : Char) (before after : List Char) : Bool :=
  let next := fun (cs : List Char) => (cs.dropWhile isTransparent).head?
  before.head?.any (combiningClass · == viramaClass) ||
    (c == nonJoiner && !before.isEmpty && (next before).any joinsNext &&
      (next after).any joinsPrevious)

/-- Do the joiners of a label stand where they may, after characters that are given with the
last one first? -/
def joinersFit (before : List Char) : List Char → Bool
  | [] => true
  | c :: cs =>
    ((c != nonJoiner && c != joiner) || mayStandBetween c before cs) && joinersFit (c :: before) cs

/-! ## Escaped bytes -/

/-- The bytes of a host in which a percent sign and two hexadecimal digits stand for one byte. -/
def percentDecode : List UInt8 → List UInt8
  | 0x25 :: a :: b :: rest =>
    let high := Char.ofNat a.toNat
    let low := Char.ofNat b.toNat
    if isHexDigit high && isHexDigit low then
      UInt8.ofNat (16 * hexDigitValue high + hexDigitValue low) :: percentDecode rest
    else 0x25 :: percentDecode (a :: b :: rest)
  | byte :: rest => byte :: percentDecode rest
  | [] => []

/-- A host with its escaped bytes resolved, if it is well formed then. -/
def decodedHost? (host : List Char) : Option (List Char) :=
  let bytes := percentDecode (String.ofList host).toUTF8.toList
  (String.fromUTF8? ⟨bytes.toArray⟩).map String.toList

/-! ## Hosts -/

/-- The delimiters that no host may hold. -/
def hostDelimiters : List Char :=
  ['\x00', '\t', '\n', '\r', ' ', '#', '/', ':', '<', '>', '?', '@', '[', '\\', ']', '^', '|']

/-- May the character occur in the name of a domain? Controls, delimiters and the percent sign
may not. -/
def isDomainChar (c : Char) : Bool :=
  0x20 < c.toNat && c.toNat != 0x7F && c != '%' && !hostDelimiters.contains c

/-- Is the text an address of version 6 in brackets? -/
def isBracketed (host : List Char) : Bool :=
  match host with
  | '[' :: rest => rest.getLast? == some ']' && isAddress6 rest.dropLast
  | _ => false

/-- What an ASCII label that stands for another one starts with. -/
def encodedMark : List Char := "xn--".toList

/-- How many characters may follow that start. -/
def maxEncodedLength : Nat := 2000

/-- How many characters a label may have unless it is in ASCII. -/
def maxLabelLength : Nat := 1000

/-- Is the text in ASCII? -/
def isAscii (cs : List Char) : Bool :=
  cs.all (·.toNat < 0x80)

/-- Does a label stay as it is when its characters are mapped and composed? -/
def isSettled (label : List Char) : Bool :=
  mapName? label == some label && Composition.composed label == label

/-- The label that a label of a name stands for: itself, unless its start says that it is
encoded. Only a settled label that is not in ASCII has another one for it. -/
def decodedLabel? (label : List Char) : Option (List Char) :=
  match Text.afterStart? encodedMark label with
  | none => some label
  | some encoded =>
    if isAscii encoded && encoded.length ≤ maxEncodedLength then
      (Punycode.decode? encoded).filter fun decoded => !isAscii decoded && isSettled decoded
    else none

/-- Can the label of a domain name be used? It does not start with a mark, and its joiners
stand where they may. -/
def isLabel (label : List Char) : Bool :=
  label.all isDomainChar && !label.head?.any Text.isMark && joinersFit [] label &&
    (isAscii label || label.length ≤ maxLabelLength)

/-- Can the labels of a domain name be used together? -/
def areLabels (labels : List (List Char)) : Bool :=
  labels.all isLabel && areDirectionsClear labels

/-- Is the text a domain name, or an address of version 4 if its last part is a number? -/
def isDomainName (host : List Char) : Bool :=
  match (decodedHost? host).bind mapName? with
  | none => false
  | some mapped =>
    let name := Composition.composed mapped
    !name.isEmpty && ((Text.splitAt '.' name).mapM decodedLabel?).any areLabels &&
      (!endsInNumber name || isAddress4 name)

/-- Is the text a host of a web address? -/
def isWebHost (host : List Char) : Bool :=
  if host.head? = some '[' then isBracketed host else isDomainName host

/-- Is the text a host of an address that no web rules hold for? -/
def isOpaqueHost (host : List Char) : Bool :=
  if host.head? = some '[' then isBracketed host else !host.any hostDelimiters.contains

end DocumentClient.Endpoint
