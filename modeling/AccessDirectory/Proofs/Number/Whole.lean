import AccessDirectory.Clock
import Mathlib.Tactic.Positivity
import Mathlib.Tactic.Ring

/-! Whole numbers among the floating-point ones. A quotient that is a whole number of moderate size is
rounded to itself, so that whole seconds of the clock are compared with whole seconds exactly. -/

namespace AccessDirectory

namespace Binary64

theorem halfEven_mul (q : Nat) {den : Nat} (h : 0 < den) : halfEven (q * den) den = q := by
  unfold halfEven
  simp only [Nat.mul_mod_left, Nat.mul_div_cancel q h]
  rw [if_pos (by omega)]

def signed (negative : Bool) (q : Nat) : Int := if negative then -(q : Int) else q

theorem intLe_finite (n : Int) (negative : Bool) (q j : Nat) :
    intLe n (finite negative (q * 2 ^ j) (-j)) = decide (n ≤ signed negative q) := by
  have hpos : (0 : Int) < 2 ^ j := by positivity
  have hvalue : (if negative then -((q * 2 ^ j : Nat) : Int) else (q * 2 ^ j : Nat)) =
      signed negative q * 2 ^ j := by
    unfold signed
    split <;> push_cast <;> ring
  have hzero : (-(j : Int)).toNat = 0 := by omega
  simp only [intLe, hzero, Int.neg_neg, Int.toNat_natCast, Nat.pow_eq, Nat.pow_zero, Nat.mul_one,
    hvalue, decide_eq_decide]
  push_cast
  exact Int.mul_le_mul_right hpos

theorem intLe_pack (n : Int) (negative : Bool) (q j : Nat) :
    intLe n (pack negative (q * 2 ^ (j + 1)) (-(j + 1 : Nat))) =
      decide (n ≤ signed negative q) := by
  unfold pack
  by_cases hm : q * 2 ^ (j + 1) = Nat.pow 2 53
  · have hhalf : Nat.pow 2 52 = q * 2 ^ j := by
      have hdouble : q * 2 ^ (j + 1) = 2 * (q * 2 ^ j) := by ring
      rw [Nat.pow_eq] at hm ⊢
      omega
    have hnext : -((j + 1 : Nat) : Int) + 1 = -(j : Int) := by omega
    simp only [hm, if_true, hnext, hhalf]
    rw [if_neg (by unfold greatestExponent; omega)]
    exact intLe_finite n negative q j
  · simp only [hm, if_false]
    rw [if_neg (by unfold greatestExponent; omega)]
    exact intLe_finite n negative q (j + 1)

theorem intLe_ofIntRatio (n s : Int) {den : Nat} (hden : 0 < den)
    (he : exponentFor (s.natAbs * den) den < 0) :
    intLe n (ofIntRatio (s * den) den) = decide (n ≤ s) := by
  have habs : (s * den).natAbs = s.natAbs * den := by rw [Int.natAbs_mul, Int.natAbs_natCast]
  have hsigned : signed (decide (s * den < 0)) s.natAbs = s := by
    have hsign : s * den < 0 ↔ s < 0 := by
      constructor
      · intro h
        by_contra hs
        have := Int.mul_nonneg (Int.not_lt.1 hs) (Int.natCast_nonneg den)
        omega
      · intro h
        exact Int.mul_neg_of_neg_of_pos h (by omega)
    unfold signed
    simp only [hsign, decide_eq_true_eq]
    split <;> omega
  unfold ofIntRatio ofRatio
  rw [habs]
  by_cases hs : s.natAbs * den = 0
  · have hzero : s = 0 := by
      rcases Nat.mul_eq_zero.1 hs with h | h <;> omega
    subst hzero
    have hleast := intLe_finite n false 0 1074
    rw [Nat.zero_mul] at hleast
    rw [if_pos hs, Int.zero_mul]
    exact hleast
  · obtain ⟨j, hj⟩ : ∃ j : Nat, exponentFor (s.natAbs * den) den = -((j + 1 : Nat) : Int) :=
      ⟨(-exponentFor (s.natAbs * den) den - 1).toNat, by omega⟩
    have hscaled : s.natAbs * den * Nat.pow 2 (j + 1) = s.natAbs * 2 ^ (j + 1) * den := by
      rw [Nat.pow_eq]
      ring
    have hzero : (-((j + 1 : Nat) : Int)).toNat = 0 := by omega
    simp only [if_neg hs, scale, hj, Int.neg_neg, Int.toNat_natCast, hzero]
    rw [hscaled, Nat.pow_eq, Nat.pow_zero, Nat.mul_one, halfEven_mul _ hden, intLe_pack, hsigned]

end Binary64

namespace Clock

theorem inRange_iff (t : Int) :
    inRange t ↔ -62135596800000000 ≤ t ∧ t ≤ 253402300799999999 := by
  rw [inRange, Bool.and_eq_true]
  exact and_congr decide_eq_true_iff decide_eq_true_iff

theorem intLe_realSeconds {s : Int} (h : inRange (s * 1000000)) (n : Int) :
    Binary64.intLe n (realSeconds (s * 1000000)) = decide (n ≤ s) := by
  have hbound : s.natAbs * 1000000 < 2 ^ 58 := by
    rw [inRange_iff] at h
    omega
  have hlog : (s.natAbs * 1000000).log2 < 58 := by
    by_cases hs : s.natAbs * 1000000 = 0
    · rw [hs]
      decide
    · exact (Nat.log2_lt hs).2 hbound
  refine Binary64.intLe_ofIntRatio n s (by decide) ?_
  have hden : Nat.log2 1000000 = 19 := by decide
  unfold Binary64.exponentFor Binary64.leastExponent
  rw [hden]
  dsimp only
  split <;> omega

end Clock

end AccessDirectory
