import DocumentClient.Proofs.Text.Split
import DocumentClient.Query.Expr

/-!
# DocumentClient.Proofs.Query.FieldPath

**References are told apart by their text, up to the spelling of names.** The stored spelling of a
name does not leave the characters of names, so the text of a reference can be told from what
follows it, and the names along it can be told apart.

* `isNameChar_of_mem_fieldText` says of which characters the text consists; no blank, no
  parenthesis and no at-sign is among them.
* `EndsPath` is what has to be known of the text behind a reference: it goes on with neither a
  character of a name nor a point. `fieldText_append_inj` is the conclusion that other proofs use:
  from two texts that are the same, and that start with references, the stored names and the rest
  are the same.

Two references may differ and have one text, since spelling changes capitals. What is told apart is
therefore `storedNames`, and not the reference.
-/

namespace DocumentClient.Query

/-! ### Characters of names -/

/-- To lower a character of a name gives a character of a name. -/
theorem isNameChar_toLower {c : Char} (h : isNameChar c = true) :
    isNameChar c.toLower = true := by
  unfold Char.toLower
  split
  · rename_i upper
    have lower : 97 ≤ (c.val + ('a'.val - 'A'.val)).toNat ∧
        (c.val + ('a'.val - 'A'.val)).toNat ≤ 122 := by
      simp only [ge_iff_le, UInt32.le_iff_toNat_le] at upper
      have first : 'A'.val.toNat = 65 := rfl
      have last : 'Z'.val.toNat = 90 := rfl
      have shift : ('a'.val - 'A'.val).toNat = 32 := rfl
      rw [UInt32.toNat_add, shift]
      omega
    refine Bool.or_eq_true_iff.mpr (.inl (Bool.or_eq_true_iff.mpr (.inl ?_)))
    refine Bool.or_eq_true_iff.mpr (.inr (Bool.and_eq_true_iff.mpr ⟨?_, ?_⟩))
    · exact decide_eq_true (UInt32.le_iff_toNat_le.mpr lower.1)
    · exact decide_eq_true (UInt32.le_iff_toNat_le.mpr lower.2)
  · exact h

theorem all_isNameChar_lowerWord {cs : List Char} (first : Bool) (h : cs.all isNameChar = true) :
    (lowerWord first cs).all isNameChar = true := by
  induction cs generalizing first with
  | nil => rfl
  | cons c rest ih =>
      have parts : isNameChar c = true ∧ rest.all isNameChar = true := by simpa using h
      unfold lowerWord
      split
      · exact h
      · split
        · exact h
        · rw [List.all_cons, isNameChar_toLower parts.1, ih false parts.2]
          rfl

theorem all_isNameChar_storedSpelling {name : List Char} (h : isName name = true) :
    (storedSpelling name).all isNameChar = true := by
  refine all_isNameChar_lowerWord true ?_
  simp only [isName, Bool.and_eq_true] at h
  exact h.1.2

/-- The text of a reference consists of characters of names, and of points. -/
theorem isNameChar_of_mem_fieldText {reference : String} (path : isFieldPath reference = true)
    {c : Char} (mem : c ∈ fieldText reference) : isNameChar c = true ∨ c = '.' := by
  rcases List.mem_cons.mp mem with rfl | mem
  · exact .inl (by decide)
  · obtain ⟨name, along, mem⟩ := List.mem_flatMap.mp mem
    rcases List.mem_cons.mp mem with point | letter
    · exact .inr point
    · exact .inl (List.all_eq_true.mp
        (all_isNameChar_storedSpelling (List.all_eq_true.mp path name along)) c letter)

/-- The names along a reference in their stored spelling. -/
def storedNames (reference : String) : List (List Char) :=
  (pathNames reference).map storedSpelling

/-! ### Where the text of a reference ends -/

/-- The text goes on with neither a character of a name nor a point. -/
def EndsPath (rest : List Char) : Prop :=
  ∀ c ∈ rest.head?, isNameChar c = false ∧ c ≠ '.'

/-- The text after a name, where further names may follow, goes on with no character of a
name. -/
theorem head?_storedNamesText {names : List (List Char)} {rest : List Char}
    (ends : EndsPath rest) :
    ∀ c ∈ (storedNamesText names ++ rest).head?, isNameChar c = false := by
  intro c mem
  cases names with
  | nil => exact (ends c mem).1
  | cons name names =>
      obtain rfl : '.' = c := by simpa [storedNamesText] using mem
      decide

/-- The names along a path are told apart by their text, and from what follows it. -/
theorem storedNamesText_append_inj {ms ns : List (List Char)} {r s : List Char}
    (hm : ms.all isName = true) (hn : ns.all isName = true) (hr : EndsPath r) (hs : EndsPath s)
    (h : storedNamesText ms ++ r = storedNamesText ns ++ s) :
    ms.map storedSpelling = ns.map storedSpelling ∧ r = s := by
  induction ms generalizing ns with
  | nil =>
      cases ns with
      | nil => exact ⟨rfl, h⟩
      | cons n ns =>
          have same : r = '.' :: _ := h
          exact absurd rfl (hr '.' (by simp [same])).2
  | cons m ms ih =>
      cases ns with
      | nil =>
          have same : '.' :: _ = s := h
          exact absurd rfl (hs '.' (by simp [← same])).2
      | cons n ns =>
          simp only [storedNamesText, List.flatMap_cons, List.cons_append, List.append_assoc,
            List.cons.injEq, true_and] at h
          rw [List.all_cons, Bool.and_eq_true] at hm hn
          obtain ⟨name, h⟩ := Text.append_inj_of_all (all_isNameChar_storedSpelling hm.1)
            (all_isNameChar_storedSpelling hn.1) (head?_storedNamesText hr)
            (head?_storedNamesText hs) h
          obtain ⟨names, same⟩ := ih hm.2 hn.2 h
          exact ⟨by rw [List.map_cons, List.map_cons, name, names], same⟩

/-- References are told apart by their text up to the spelling of names, and from what follows
it. -/
theorem fieldText_append_inj {a b : String} {r s : List Char} (ha : isFieldPath a = true)
    (hb : isFieldPath b = true) (hr : EndsPath r) (hs : EndsPath s)
    (h : fieldText a ++ r = fieldText b ++ s) : storedNames a = storedNames b ∧ r = s := by
  obtain ⟨_, h⟩ := List.cons.inj h
  exact storedNamesText_append_inj ha hb hr hs h

end DocumentClient.Query
