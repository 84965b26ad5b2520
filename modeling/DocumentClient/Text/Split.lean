/-!
# DocumentClient.Text.Split

**Cutting a text at a separator**, and joining what was cut. The functions work on lists of
characters and recurse on the text, so what they return can be reasoned about by induction.

* `splitOnce?` cuts at the first occurrence, `splitLast?` at the last one of a character, and
  `splitAll` at each, taken from the left: occurrences do not overlap.
* A text without the separator is one part, also if it is empty.
* `splitFrom` is the recursion of `splitAll`. It counts the characters that still belong to the
  occurrence that was just found, in place of dropping them from the text, so that every step
  takes one character.
-/

namespace DocumentClient.Text

/-- Does the text start with the character? -/
def startsWith (first : Char) (s : String) : Bool :=
  s.toList.head? == some first

/-- What follows `start` in a text that begins with it. -/
def afterStart? (start : List Char) (cs : List Char) : Option (List Char) :=
  start.isPrefixOf? cs

/-- The parts before and after the first occurrence of a separator. -/
def splitOnce? (separator : List Char) : List Char → Option (List Char × List Char)
  | [] => if separator.isEmpty then some ([], []) else none
  | c :: cs =>
    match afterStart? separator (c :: cs) with
    | some rest => some ([], rest)
    | none => (splitOnce? separator cs).map fun (before, after) => (c :: before, after)

/-- Does the separator occur in the text? -/
def occursIn (separator cs : List Char) : Bool :=
  (splitOnce? separator cs).isSome

/-- Puts a character in front of the first of several parts. -/
def consFirst (c : Char) : List (List Char) → List (List Char)
  | [] => [[c]]
  | part :: parts => (c :: part) :: parts

/-- The parts between the occurrences of a separator, taken from the left; `inside` characters
still belong to the occurrence that was just found. -/
def splitFrom (separator : List Char) : Nat → List Char → List (List Char)
  | _, [] => [[]]
  | inside + 1, _ :: cs => splitFrom separator inside cs
  | 0, c :: cs =>
    if separator.isPrefixOf (c :: cs) then [] :: splitFrom separator (separator.length - 1) cs
    else consFirst c (splitFrom separator 0 cs)

/-- The parts between the occurrences of a non-empty separator; a text without it is one part. -/
def splitAll (separator cs : List Char) : List (List Char) :=
  splitFrom separator 0 cs

/-- The parts between the occurrences of one character. -/
def splitAt (separator : Char) (cs : List Char) : List (List Char) :=
  splitAll [separator] cs

/-- The parts before and after the last occurrence of a character. -/
def splitLast? (separator : Char) (cs : List Char) : Option (List Char × List Char) :=
  (splitOnce? [separator] cs.reverse).map fun (after, before) => (before.reverse, after.reverse)

/-- Joins parts with a separator between them. -/
def join (separator : List Char) : List (List Char) → List Char
  | [] => []
  | [part] => part
  | part :: parts => part ++ separator ++ join separator parts

end DocumentClient.Text
