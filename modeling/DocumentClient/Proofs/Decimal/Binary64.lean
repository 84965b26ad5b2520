import DocumentClient.Decimal.Binary64
import Mathlib.Algebra.Group.Nat.Defs

/-!
# DocumentClient.Proofs.Decimal.Binary64

**Whole numbers of at most 53 bits are ordered as their floating-point numbers are.** Such a number
is a significand of 53 bits times a power of two, so it is not rounded; the magnitude counts first
the power and then the significand, and so keeps the order.

* `roundUnits_mul_two_pow` is the key: a scaled significand is rounded to itself, and its
  magnitude is put together from scale and significand.
* `exists_significand` writes a whole number as one. All numbers are counted in the least positive
  one, of which `2 ^ leastExponent` make up the number one. That power is never evaluated: what is
  said of it holds of any power of two, and only the exponent is used as a number.
* `magnitude_ofNat_lt` compares the scales first. If they differ, a larger power of two outweighs
  every significand; if not, the significands decide.

It is used where documents are sorted by a whole number at a path: the store compares the numbers as
floating-point ones, and beyond 53 bits that is another order.
-/

namespace DocumentClient.Binary64

/-- The largest whole number up to which all whole numbers are floating-point ones. -/
def maxExact : Nat := 2 * hiddenBit

theorem roundDiv_mul (s : Nat) {d : Nat} (pos : 0 < d) : roundDiv (s * d) d = s := by
  simp [roundDiv, Nat.mul_div_cancel s pos, pos]

/-- The length of a significand of 53 bits that is scaled by a power of two. -/
theorem log2_mul_two_pow {s : Nat} (least : hiddenBit ≤ s) (most : s < maxExact) (k : Nat) :
    (s * 2 ^ k).log2 = 52 + k := by
  have positive : s * 2 ^ k ≠ 0 :=
    Nat.mul_ne_zero (Nat.ne_of_gt (Nat.lt_of_lt_of_le (by decide) least))
      (Nat.ne_of_gt (Nat.two_pow_pos k))
  refine (Nat.log2_eq_iff positive).mpr ⟨?_, ?_⟩
  · rw [Nat.pow_add]
    exact Nat.mul_le_mul_right _ least
  · rw [show 52 + k + 1 = 53 + k by omega, Nat.pow_add]
    exact Nat.mul_lt_mul_of_pos_right most (Nat.two_pow_pos k)

/-- **A scaled significand of 53 bits is not rounded**, unless it is too large for a number. -/
theorem roundUnits_mul_two_pow {s k : Nat} (least : hiddenBit ≤ s) (most : s < maxExact)
    (finite : k ≤ 2045) : roundUnits (s * 2 ^ k) 1 = k * hiddenBit + s := by
  have scale : (s * 2 ^ k / 1).log2 - 52 = k := by
    rw [Nat.div_one, log2_mul_two_pow least most]
    omega
  have below : k * hiddenBit + s ≤ infinity := by
    have scaled : k * hiddenBit ≤ 2045 * hiddenBit := Nat.mul_le_mul_right _ finite
    simp only [infinity, maxExact] at *
    omega
  simp only [roundUnits, scale]
  rw [show 1 * Nat.pow 2 k = 2 ^ k from Nat.one_mul _, roundDiv_mul s (Nat.two_pow_pos k)]
  exact Nat.min_eq_right below

theorem unitsPerOne_eq : unitsPerOne = 2 ^ leastExponent := by
  unfold unitsPerOne
  -- for any exponent, since the power of this one is too large to be computed
  generalize leastExponent = e
  exact Nat.pow_eq

/-- A whole number of at most 53 bits is a scaled significand. -/
theorem exists_significand {n : Nat} (pos : 0 < n) (exact : n ≤ maxExact) :
    ∃ s k, hiddenBit ≤ s ∧ s < maxExact ∧ k ≤ 2045 ∧ n * unitsPerOne = s * 2 ^ k := by
  -- from here on only the exponent is a number, for the power is too large to be computed
  obtain ⟨e, exponent⟩ : ∃ e, leastExponent = e := ⟨_, rfl⟩
  have value : e = 1074 := exponent.symm
  rw [unitsPerOne_eq, exponent]
  rcases Nat.lt_or_eq_of_le exact with within | rfl
  · have length : n.log2 < 53 := (Nat.log2_lt (Nat.ne_of_gt pos)).mpr within
    have split : 2 ^ 52 = 2 ^ n.log2 * 2 ^ (52 - n.log2) := by
      rw [← Nat.pow_add]
      congr 1
      omega
    refine ⟨n * 2 ^ (52 - n.log2), 1022 + n.log2, ?_, ?_, by omega, ?_⟩
    · change 2 ^ 52 ≤ _
      rw [split]
      exact Nat.mul_le_mul_right _ (Nat.log2_self_le (Nat.ne_of_gt pos))
    · change _ < 2 ^ 53
      have shifted : n * 2 ^ (52 - n.log2) < 2 ^ (n.log2 + 1) * 2 ^ (52 - n.log2) :=
        Nat.mul_lt_mul_of_pos_right Nat.lt_log2_self (Nat.two_pow_pos _)
      rwa [← Nat.pow_add, show n.log2 + 1 + (52 - n.log2) = 53 by omega] at shifted
    · rw [Nat.mul_assoc, ← Nat.pow_add, show 52 - n.log2 + (1022 + n.log2) = e by omega]
  · refine ⟨hiddenBit, e + 1, Nat.le_refl _, by decide, by omega, ?_⟩
    rw [maxExact, Nat.pow_succ, Nat.mul_comm (2 ^ e) 2, ← Nat.mul_assoc, Nat.mul_comm hiddenBit 2]

/-- Larger whole numbers have larger magnitudes, as long as they are exact. -/
theorem magnitude_ofNat_lt {m n : Nat} (h : m < n) (exact : n ≤ maxExact) :
    (ofNat m).magnitude < (ofNat n).magnitude := by
  obtain ⟨s, k, least, most, finite, units⟩ := exists_significand (Nat.zero_lt_of_lt h) exact
  change roundUnits (m * unitsPerOne) 1 < roundUnits (n * unitsPerOne) 1
  rw [units, roundUnits_mul_two_pow least most finite]
  rcases Nat.eq_zero_or_pos m with rfl | pos
  · rw [Nat.zero_mul]
    exact Nat.lt_of_lt_of_le (by decide) (Nat.le_add_left_of_le least)
  · obtain ⟨s', k', least', most', finite', units'⟩ :=
      exists_significand pos (Nat.le_trans (Nat.le_of_lt h) exact)
    rw [units', roundUnits_mul_two_pow least' most' finite']
    have less : s' * 2 ^ k' < s * 2 ^ k := by
      rw [← units, ← units', unitsPerOne_eq]
      exact Nat.mul_lt_mul_of_pos_right h (Nat.two_pow_pos leastExponent)
    rcases Nat.lt_trichotomy k' k with lower | rfl | higher
    · have step : (k' + 1) * hiddenBit ≤ k * hiddenBit := Nat.mul_le_mul_right _ lower
      simp only [maxExact, Nat.add_mul] at *
      omega
    · have := Nat.lt_of_mul_lt_mul_right less
      omega
    · -- a larger power of two outweighs every significand
      have outweighs : s * 2 ^ k < s' * 2 ^ k' := by
        calc s * 2 ^ k < maxExact * 2 ^ k := Nat.mul_lt_mul_of_pos_right most (Nat.two_pow_pos k)
          _ = hiddenBit * 2 ^ (k + 1) := by
            rw [maxExact, Nat.pow_succ, Nat.mul_comm (2 ^ k) 2, ← Nat.mul_assoc,
              Nat.mul_comm hiddenBit 2]
          _ ≤ s' * 2 ^ k' :=
            Nat.mul_le_mul least' (Nat.pow_le_pow_right (by decide) higher)
      exact absurd outweighs (Nat.lt_asymm less)

theorem rank_ofInt_lt {i j : Int} (h : i < j) (exactI : i.natAbs ≤ maxExact)
    (exactJ : j.natAbs ≤ maxExact) : (ofInt i).rank < (ofInt j).rank := by
  simp only [rank, ofInt, decide_eq_true_eq]
  split
  · split
    · have := magnitude_ofNat_lt (show j.natAbs < i.natAbs by omega) exactI
      omega
    · have := magnitude_ofNat_lt (show 0 < i.natAbs by omega) exactI
      omega
  · rw [if_neg (by omega)]
    have := magnitude_ofNat_lt (show i.natAbs < j.natAbs by omega) exactJ
    omega

/-- **Integers are compared exactly** as floating-point numbers, up to 53 bits. -/
theorem lt_ofInt {i j : Int} (exactI : i.natAbs ≤ maxExact) (exactJ : j.natAbs ≤ maxExact) :
    (ofInt i).lt (ofInt j) = decide (i < j) := by
  refine decide_eq_decide.mpr ⟨fun less => ?_, fun less => rank_ofInt_lt less exactI exactJ⟩
  rcases Int.lt_trichotomy i j with before | rfl | after
  · exact before
  · exact absurd less (Int.lt_irrefl _)
  · exact absurd (rank_ofInt_lt after exactJ exactI) (Int.lt_asymm less)

end DocumentClient.Binary64
