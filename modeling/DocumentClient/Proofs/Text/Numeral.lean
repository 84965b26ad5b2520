import DocumentClient.Text.Numeral
import DocumentClient.Text.Property

/-!
# DocumentClient.Proofs.Text.Numeral

**Exactly the texts of numbers are read** (`readNumeral_eq_ok_iff`). Numbers that were written are
read again, so two numbers with one text are the same.

* `IsNumeral` says which texts are meant, without reading them: one digit or more, after a plus
  sign if there is one. Zeros in front do not matter, so a number has several texts; only
  `Text.natText` writes one of them.
* `readNumeral_natChars` reads what was written, and `natChars_injective` tells numbers by their
  texts.

## Proof shape

* Reading stops at the first digit that leads beyond the bound, where the number so far says
  little about the text. `readDigits_eq_ok_iff` is the induction over the digits; it compares with
  what `Nat.ofDigitChars` makes of them. That never decreases on the way (`le_ofDigitChars`), and so
  the number of the whole text is beyond the bound too.
* The last part has what trimming does to the text of a number: nothing.
-/

namespace DocumentClient.Text

theorem isDigit_of_mem_natChars {n : Nat} {c : Char} (h : c ∈ natChars n) : c.isDigit = true :=
  Nat.isDigit_of_mem_toDigits (by decide) (by decide) h

theorem natChars_injective {m n : Nat} (h : natChars m = natChars n) : m = n := by
  have read := congrArg (fun cs => Nat.ofDigitChars 10 cs 0) h
  simpa [natChars] using read

theorem digit?_of_isDigit {c : Char} (h : c.isDigit = true) :
    digit? c = some (c.toNat - '0'.toNat) := by
  have range : '0' ≤ c ∧ c ≤ '9' := by
    simpa [Char.isDigit, Char.le_def] using h
  exact if_pos range

theorem digit?_of_not_isDigit {c : Char} (h : c.isDigit = false) : digit? c = none := by
  refine if_neg fun range => ?_
  have digit : c.isDigit = true := by simpa [Char.isDigit, Char.le_def] using range
  rw [digit] at h
  cases h

theorem le_ofDigitChars (cs : List Char) (value : Nat) : value ≤ Nat.ofDigitChars 10 cs value := by
  induction cs generalizing value with
  | nil => simp
  | cons c cs ih =>
      rw [Nat.ofDigitChars_cons]
      have further := ih (10 * value + (c.toNat - '0'.toNat))
      omega

/-- Digits are read to the end exactly if their number is within the bound. -/
theorem readDigits_eq_ok_iff {bound value n : Nat} {cs : List Char} (within : value ≤ bound) :
    readDigits bound value cs = .ok n ↔
      (∀ c ∈ cs, c.isDigit = true) ∧ Nat.ofDigitChars 10 cs value = n ∧ n ≤ bound := by
  induction cs generalizing value with
  | nil =>
      refine ⟨fun read => ?_, fun ⟨_, same, _⟩ => same ▸ rfl⟩
      obtain rfl : value = n := Except.ok.inj read
      exact ⟨nofun, rfl, within⟩
  | cons c cs ih =>
      cases digit : c.isDigit with
      | false => simp [readDigits, digit?_of_not_isDigit digit, digit]
      | true =>
          rw [readDigits, digit?_of_isDigit digit, Nat.ofDigitChars_cons]
          dsimp only
          split
          · rename_i fits
            rw [ih fits, List.forall_mem_cons, and_iff_right digit]
          · rename_i large
            have larger := le_ofDigitChars cs (10 * value + (c.toNat - '0'.toNat))
            refine ⟨nofun, fun ⟨_, same, fits⟩ => ?_⟩
            omega

/-- The text of a number: one digit or more, after a plus sign if there is one. -/
def IsNumeral (cs : List Char) (n : Nat) : Prop :=
  ∃ digits, (cs = digits ∨ cs = '+' :: digits) ∧ digits ≠ [] ∧
    (∀ c ∈ digits, c.isDigit = true) ∧ Nat.ofDigitChars 10 digits 0 = n

/-- **Exactly the texts of numbers within the bound are read**, as these numbers. -/
theorem readNumeral_eq_ok_iff {bound n : Nat} {cs : List Char} :
    readNumeral bound cs = .ok n ↔ IsNumeral cs n ∧ n ≤ bound := by
  have read : ∀ digits, readDigits bound 0 digits = .ok n ↔
      (∀ c ∈ digits, c.isDigit = true) ∧ Nat.ofDigitChars 10 digits 0 = n ∧ n ≤ bound :=
    fun digits => readDigits_eq_ok_iff (Nat.zero_le bound)
  have sign : ∀ {cs : List Char}, ¬∀ c ∈ '+' :: cs, c.isDigit = true :=
    fun digits => absurd (digits '+' List.mem_cons_self) (by decide)
  unfold readNumeral
  split
  · simp [IsNumeral]
  · refine ⟨nofun, fun ⟨⟨digits, shape, nonempty, all, _⟩, _⟩ => ?_⟩
    obtain rfl | same := shape
    · exact absurd all sign
    · exact absurd (List.cons.inj same).2.symm nonempty
  · rename_i rest nonempty
    rw [read rest]
    constructor
    · rintro ⟨all, same, fits⟩
      exact ⟨⟨rest, .inr rfl, nonempty, all, same⟩, fits⟩
    · rintro ⟨⟨digits, rfl | same, -, all, number⟩, fits⟩
      · exact absurd all sign
      · obtain rfl := (List.cons.inj same).2
        exact ⟨all, number, fits⟩
  · rename_i nonempty _ unsigned
    rw [read cs]
    constructor
    · rintro ⟨all, same, fits⟩
      exact ⟨⟨cs, .inl rfl, nonempty, all, same⟩, fits⟩
    · rintro ⟨⟨digits, rfl | same, -, all, number⟩, fits⟩
      · exact ⟨all, number, fits⟩
      · exact absurd same (unsigned digits)

theorem isNumeral_natChars (n : Nat) : IsNumeral (natChars n) n :=
  ⟨natChars n, .inl rfl, Nat.toDigits_ne_nil, fun _ mem => isDigit_of_mem_natChars mem,
    Nat.ofDigitChars_ten_toDigits⟩

theorem IsNumeral.eq_of_natChars {n m : Nat} (h : IsNumeral (natChars n) m) : m = n := by
  obtain ⟨digits, same | signed, -, -, rfl⟩ := h
  · exact same ▸ Nat.ofDigitChars_ten_toDigits
  · have sign : '+' ∈ natChars n := signed ▸ List.mem_cons_self
    exact absurd (isDigit_of_mem_natChars sign) (by decide)

/-- **A number that was written is read again**, if it is within the bound. -/
theorem readNumeral_natChars {bound n : Nat} (h : n ≤ bound) :
    readNumeral bound (natChars n) = .ok n :=
  readNumeral_eq_ok_iff.mpr ⟨isNumeral_natChars n, h⟩

theorem eq_of_readNumeral_natChars {bound n m : Nat} (h : readNumeral bound (natChars n) = .ok m) :
    m = n :=
  (readNumeral_eq_ok_iff.mp h).1.eq_of_natChars

/-! ### Trimming -/

theorem trimChars_eq_self {cs : List Char} (first : ∀ c ∈ cs.head?, isBlank c = false)
    (last : ∀ c ∈ cs.getLast?, isBlank c = false) : trimChars cs = cs := by
  have kept : ∀ {cs : List Char}, (∀ c ∈ cs.head?, isBlank c = false) →
      cs.dropWhile isBlank = cs := by
    intro cs first
    cases cs with
    | nil => rfl
    | cons c cs => exact List.dropWhile_cons_of_neg (by simp [first c rfl])
  rw [trimChars, kept first, kept (by rwa [List.head?_reverse]), List.reverse_reverse]

theorem isBlank_of_isDigit {c : Char} (h : c.isDigit = true) : isBlank c = false := by
  have range : 48 ≤ c.toNat ∧ c.toNat ≤ 57 := by
    simpa [Char.isDigit, UInt32.le_iff_toNat_le] using h
  simp [isBlank, blankRanges]
  omega

theorem trimChars_append_natChars {first : Char} (notBlank : isBlank first = false)
    (before : List Char) (n : Nat) :
    trimChars (first :: (before ++ natChars n)) = first :: (before ++ natChars n) := by
  refine trimChars_eq_self (fun c mem => Option.some.inj mem ▸ notBlank) fun c mem => ?_
  have digits : natChars n ≠ [] := Nat.toDigits_ne_nil
  rw [← List.cons_append, List.getLast?_append, List.getLast?_eq_some_getLast digits,
    Option.some_or] at mem
  obtain rfl := Option.some.inj mem
  exact isBlank_of_isDigit (isDigit_of_mem_natChars (List.getLast_mem digits))

end DocumentClient.Text
