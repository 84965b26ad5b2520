import DocumentClient.Proofs.Query.FieldPath
import Mathlib.Tactic.SplitIfs

/-!
# DocumentClient.Proofs.Query.Spelling

**The stored spelling of a name lowers exactly its leading word, and to spell a name again changes
nothing.** Spelling goes along a name, looks one character ahead and stops where the next word may
start; here the characters that it lowers are counted instead.

* `leadingWord` counts them by the run of capitals at the start of a name. `lowerWord_false` is
  the induction: behind the first capital a word has begun, and `wordRest` counts what still
  belongs to it. `storedSpelling_eq` adds the first capital.
* A capital outside of ASCII belongs to the run, but is not lowered. A name may therefore start
  with capitals after it has been spelled, and another number of them than before, so that
  `lowerWord_lowerWord` goes along the characters and not by their number.
* What lowering does to one character is said by its code: it changes the 26 capitals of ASCII
  only, and moves them by 32 places.
* `storedReference` spells the names along a reference. What comes of it is a path exactly if the
  reference was one, and has the same text in a query. For that it is enough that names keep their
  length, and every property of characters that all letters share (`toLower_shared`).
-/

namespace DocumentClient.Query

/-! ### Leading words -/

/-- How many capitals a text starts with. -/
def capitals (cs : List Char) : Nat :=
  (cs.takeWhile Text.isUppercase).length

/-- How many characters the leading word of a name has: the capitals at its start. The last of
several capitals starts the next word and is not counted, unless the name ends with it. -/
def leadingWord (name : List Char) : Nat :=
  if capitals name = name.length ∨ capitals name ≤ 1 then capitals name else capitals name - 1

/-- How many characters at the start of a text belong to a word that has begun before it. -/
def wordRest (cs : List Char) : Nat :=
  if capitals cs = cs.length then capitals cs else capitals cs - 1

/-- Lowers the first characters of a text and leaves the others as they are. -/
def lowerFirst (count : Nat) (cs : List Char) : List Char :=
  (cs.take count).map Char.toLower ++ cs.drop count

@[simp] theorem lowerFirst_zero (cs : List Char) : lowerFirst 0 cs = cs := rfl

@[simp] theorem lowerFirst_succ (count : Nat) (c : Char) (cs : List Char) :
    lowerFirst (count + 1) (c :: cs) = c.toLower :: lowerFirst count cs := rfl

section Counting

variable {c : Char} (rest : List Char)

theorem capitals_le_length (cs : List Char) : capitals cs ≤ cs.length :=
  (List.takeWhile_sublist Text.isUppercase).length_le

@[simp] theorem capitals_of_capital (capital : Text.isUppercase c = true) :
    capitals (c :: rest) = capitals rest + 1 := by
  simp [capitals, capital]

@[simp] theorem capitals_of_other (other : Text.isUppercase c = false) :
    capitals (c :: rest) = 0 := by
  simp [capitals, other]

theorem leadingWord_of_other (other : Text.isUppercase c = false) :
    leadingWord (c :: rest) = 0 := by
  simp [leadingWord, other]

theorem leadingWord_of_capital (capital : Text.isUppercase c = true) :
    leadingWord (c :: rest) = wordRest rest + 1 := by
  have bound := capitals_le_length rest
  simp only [leadingWord, wordRest, capitals_of_capital rest capital, List.length_cons]
  split_ifs <;> omega

theorem wordRest_of_other (other : Text.isUppercase c = false) : wordRest (c :: rest) = 0 := by
  simp [wordRest, other]

/-- The capital before a character that is none starts the next word. -/
theorem wordRest_of_start (capital : Text.isUppercase c = true)
    (start : rest.head?.any (fun next => !Text.isUppercase next) = true) :
    wordRest (c :: rest) = 0 := by
  cases rest with
  | nil => cases start
  | cons next rest =>
      have other : Text.isUppercase next = false := by simpa using start
      simp [wordRest, capital, other]

/-- A capital at the end, or before another one, belongs to the word. -/
theorem wordRest_of_inside (capital : Text.isUppercase c = true)
    (inside : rest.head?.any (fun next => !Text.isUppercase next) = false) :
    wordRest (c :: rest) = wordRest rest + 1 := by
  cases rest with
  | nil => simp [wordRest, capital, capitals]
  | cons next rest =>
      have also : Text.isUppercase next = true := by simpa using inside
      have bound := capitals_le_length rest
      simp only [wordRest, capitals_of_capital _ capital, capitals_of_capital _ also,
        List.length_cons]
      split_ifs <;> omega

end Counting

/-- What goes on with a word is lowered as far as it belongs to the word. -/
theorem lowerWord_false (cs : List Char) : lowerWord false cs = lowerFirst (wordRest cs) cs := by
  induction cs with
  | nil => rfl
  | cons c rest ih =>
      cases capital : Text.isUppercase c with
      | false => simp [lowerWord, capital, wordRest_of_other]
      | true =>
          cases start : rest.head?.any (fun next => !Text.isUppercase next) with
          | true => simp [lowerWord, capital, start, wordRest_of_start]
          | false => simp [lowerWord, capital, start, wordRest_of_inside, ih]

/-- **The stored spelling lowers the leading word of a name.** -/
theorem storedSpelling_eq (name : List Char) :
    storedSpelling name = lowerFirst (leadingWord name) name := by
  cases name with
  | nil => rfl
  | cons c rest =>
      cases capital : Text.isUppercase c with
      | false => simp [storedSpelling, lowerWord, capital, leadingWord_of_other]
      | true =>
          simp [storedSpelling, lowerWord, capital, leadingWord_of_capital, lowerWord_false]

/-! ### Lowering again -/

theorem isUpper_iff {c : Char} : c.isUpper = true ↔ 65 ≤ c.toNat ∧ c.toNat ≤ 90 :=
  decide_eq_true_iff

theorem isLower_iff {c : Char} : c.isLower = true ↔ 97 ≤ c.toNat ∧ c.toNat ≤ 122 :=
  Bool.and_eq_true_iff.trans (and_congr decide_eq_true_iff decide_eq_true_iff)

theorem isAlpha_iff {c : Char} : c.isAlpha = true ↔ c.isUpper = true ∨ c.isLower = true :=
  Bool.or_eq_true_iff

theorem toLower_of_not_isUpper {c : Char} (other : c.isUpper = false) : c.toLower = c :=
  dif_neg (of_decide_eq_false other)

theorem isLower_toLower {c : Char} (upper : c.isUpper = true) : c.toLower.isLower = true := by
  have between := isUpper_iff.mp upper
  have shifted : c.toLower.toNat = c.toNat + 32 := by
    have lowered : c.toLower.val = c.val + ('a'.val - 'A'.val) :=
      congrArg Char.val (dif_pos (of_decide_eq_true upper))
    rw [← Char.toNat_val, lowered, UInt32.toNat_add, Char.toNat_val]
    exact Nat.mod_eq_of_lt (show c.toNat + 32 < 2 ^ 32 by omega)
  rw [isLower_iff]
  omega

theorem isUpper_of_isLower {c : Char} (lower : c.isLower = true) : c.isUpper = false := by
  rw [← Bool.not_eq_true, isUpper_iff]
  have := isLower_iff.mp lower
  omega

theorem toLower_toLower (c : Char) : c.toLower.toLower = c.toLower := by
  cases upper : c.isUpper with
  | false => rw [toLower_of_not_isUpper upper, toLower_of_not_isUpper upper]
  | true => exact toLower_of_not_isUpper (isUpper_of_isLower (isLower_toLower upper))

/-! ### Spelling again -/

/-- Spelling stops at a character, or lowers it and goes on. -/
theorem lowerWord_cons (first : Bool) (c : Char) (rest : List Char) :
    lowerWord first (c :: rest) = c :: rest ∨
      lowerWord first (c :: rest) = c.toLower :: lowerWord false rest := by
  rw [lowerWord]
  split
  · exact .inl rfl
  · split
    · exact .inl rfl
    · exact .inr rfl

/-- Wherever spelling stops when it goes along a text again, what is there has been spelled. -/
theorem lowerWord_lowerWord (first : Bool) (cs : List Char) :
    lowerWord first (lowerWord first cs) = lowerWord first cs := by
  induction cs generalizing first with
  | nil => rfl
  | cons c rest ih =>
      rcases lowerWord_cons first c rest with stopped | lowered
      · rw [stopped, stopped]
      · rw [lowered]
        rcases lowerWord_cons first c.toLower (lowerWord false rest) with stopped | again
        · exact stopped
        · rw [again, toLower_toLower, ih]

@[simp] theorem storedSpelling_storedSpelling (name : List Char) :
    storedSpelling (storedSpelling name) = storedSpelling name :=
  lowerWord_lowerWord true name

/-! ### What spelling keeps -/

theorem toLower_eq_self_or_isAlpha (c : Char) :
    c.toLower = c ∨ (c.isAlpha = true ∧ c.toLower.isAlpha = true) := by
  cases upper : c.isUpper with
  | false => exact .inl (toLower_of_not_isUpper upper)
  | true =>
      exact .inr ⟨isAlpha_iff.mpr (.inl upper), isAlpha_iff.mpr (.inr (isLower_toLower upper))⟩

theorem isNameChar_of_isAlpha (c : Char) (letter : c.isAlpha = true) : isNameChar c = true := by
  simp [isNameChar, Char.isAlphanum, letter]

theorem isDigit_of_isAlpha (c : Char) (letter : c.isAlpha = true) : c.isDigit = false := by
  rw [← Bool.not_eq_true]
  intro digit
  have between : 48 ≤ c.toNat ∧ c.toNat ≤ 57 :=
    And.imp of_decide_eq_true of_decide_eq_true (Bool.and_eq_true_iff.mp digit)
  rcases isAlpha_iff.mp letter with upper | lower
  · have := isUpper_iff.mp upper
    omega
  · have := isLower_iff.mp lower
    omega

theorem ne_point_of_isAlpha (c : Char) (letter : c.isAlpha = true) : (c != '.') = true := by
  rw [bne_iff_ne]
  rintro rfl
  cases letter

section Shared

variable {p : Char → Bool} {answer : Bool} (shared : ∀ c : Char, c.isAlpha = true → p c = answer)

include shared

theorem toLower_shared (c : Char) : p c.toLower = p c := by
  rcases toLower_eq_self_or_isAlpha c with same | ⟨letter, lowered⟩
  · rw [same]
  · rw [shared _ letter, shared _ lowered]

theorem all_storedSpelling (name : List Char) : (storedSpelling name).all p = name.all p := by
  have same : p ∘ Char.toLower = p := funext (toLower_shared shared)
  rw [storedSpelling_eq, lowerFirst, List.all_append, List.all_map, same, ← List.all_append,
    List.take_append_drop]

theorem any_head?_storedSpelling (name : List Char) :
    (storedSpelling name).head?.any p = name.head?.any p := by
  rw [storedSpelling_eq]
  cases name with
  | nil => simp [lowerFirst]
  | cons c rest => cases leadingWord (c :: rest) <;> simp [toLower_shared shared]

end Shared

theorem length_storedSpelling (name : List Char) : (storedSpelling name).length = name.length := by
  simp only [storedSpelling_eq, lowerFirst, List.length_append, List.length_map, List.length_take,
    List.length_drop]
  omega

theorem isName_storedSpelling (name : List Char) : isName (storedSpelling name) = isName name := by
  have empty : (storedSpelling name).isEmpty = name.isEmpty := by
    rw [Bool.eq_iff_iff, List.isEmpty_iff_length_eq_zero, length_storedSpelling,
      List.isEmpty_iff_length_eq_zero]
  rw [isName, isName, empty, all_storedSpelling isNameChar_of_isAlpha,
    any_head?_storedSpelling isDigit_of_isAlpha]

theorem point_not_mem_storedSpelling {name : List Char} (h : '.' ∉ name) :
    '.' ∉ storedSpelling name := by
  have absent_iff : ∀ cs : List Char, '.' ∉ cs ↔ cs.all (· != '.') = true := by
    intro cs
    simp [List.all_bne']
  rwa [absent_iff, all_storedSpelling ne_point_of_isAlpha, ← absent_iff]

/-! ### References -/

/-- A reference with each of its names in stored spelling. The names are spelled one by one: a point
is no capital, so that to spell the reference as one text would stop in its first name. -/
def storedReference (reference : String) : String :=
  String.ofList (Text.join ['.'] (storedNames reference))

theorem pathNames_storedReference (reference : String) :
    pathNames (storedReference reference) = storedNames reference := by
  rw [pathNames, storedReference, String.toList_ofList]
  refine Text.splitFrom_join (mt List.map_eq_nil_iff.mp (Text.splitFrom_ne_nil _ _ _)) ?_
  intro name mem
  obtain ⟨original, along, rfl⟩ := List.mem_map.mp mem
  exact point_not_mem_storedSpelling (Text.not_mem_of_mem_splitFrom along)

theorem isFieldPath_storedReference (reference : String) :
    isFieldPath (storedReference reference) = isFieldPath reference := by
  have same : isName ∘ storedSpelling = isName := funext isName_storedSpelling
  rw [isFieldPath, pathNames_storedReference, storedNames, List.all_map, same, isFieldPath]

theorem fieldText_storedReference (reference : String) :
    fieldText (storedReference reference) = fieldText reference := by
  rw [fieldText, pathNames_storedReference, fieldText]
  simp [storedNamesText, storedNames, List.flatMap_map]

/-- **The leading word of a name is lowered, once and for all.** Of any text exactly the characters
of its leading word are lowered, as far as they are ASCII letters, and the rest is left as it is; a
text that is spelled again stays as it is. So a reference to a field may be written in the stored
spelling of its names: it is accepted and refused as before, and its text is the same. -/
theorem camelCase_lowers_leadingWord (text : String) :
    (camelCase text).toList = lowerFirst (leadingWord text.toList) text.toList ∧
      camelCase (camelCase text) = camelCase text ∧
      isFieldPath (storedReference text) = isFieldPath text ∧
      fieldText (storedReference text) = fieldText text := by
  refine ⟨?_, ?_, isFieldPath_storedReference text, fieldText_storedReference text⟩
  · rw [camelCase, String.toList_ofList, storedSpelling_eq]
  · rw [camelCase, camelCase, String.toList_ofList, storedSpelling_storedSpelling]

-- In the last name the capital that is not of ASCII is counted, and stays as it is.
example : ["UserId", "IDValue", "ID", "X", "name", "AÉB"].map camelCase =
    ["userId", "idValue", "id", "x", "name", "aÉb"] := by
  decide

end DocumentClient.Query
