import AccessDirectory.Proofs.Number.Rounding
import Mathlib.Tactic.NormNum

/-! Whole milliseconds of the clock, as they are reported. The seconds are rounded to a floating-point
number, and so is their product with a thousand; then the fraction is dropped. If the seconds were rounded
down by too much for the second rounding to make up for it, the millisecond before is reported. That takes
seconds just above a power of two; from November 2004 to January 2038 every millisecond is exact. -/

namespace AccessDirectory
open Binary64

/-- The whole part of the product of a number with a thousand, where the number is near `m / 1000` and
the product has `53 + s` bits. -/
theorem Binary64.truncate?_scaleBy (negative : Bool) {h s m j : Nat} (hj : 1 ≤ j) (hj' : j ≤ 1073)
    (hh : h < 2 ^ 53) (hunit : 500 < 2 ^ s) (hlow : 2 ^ (s + 52) ≤ h * 1000)
    (hhigh : h * 1000 < 2 ^ (s + 53))
    (hnear : 2 * (m * 2 ^ (s + j)) ≤ 2 * h * 1000 + 1000)
    (hnear' : 2 * h * 1000 ≤ 2 * (m * 2 ^ (s + j)) + 1000) :
    truncate? (scaleBy 1000 (pack negative h (-(s + j : Nat)))) =
      some (signed negative
        (if 2 * (m * 2 ^ (s + j)) ≤ 2 * (h * 1000) + 2 ^ s then m else m - 1)) := by
  obtain ⟨i, rfl⟩ : ∃ i, j = i + 1 := ⟨j - 1, by omega⟩
  have hzero : (-((s + (i + 1) : Nat) : Int)).toNat = 0 := by omega
  have hgrid : m * 2 ^ (s + (i + 1)) = m * 2 ^ (i + 1) * 2 ^ s := by ring
  rw [hgrid] at hnear hnear' ⊢
  rw [pack_of_lt negative hh]
  simp only [scaleBy, hzero, Int.neg_neg, Int.toNat_natCast, Nat.pow_eq, Nat.pow_zero, Nat.mul_one]
  rw [ofRatio_two_pow negative hj' hlow hhigh, truncate?_pack,
    halfEven_div (m := m) (Nat.two_pow_pos s) hj (by omega) (by omega)]

namespace Clock

/-- Whether a number of milliseconds is reported as one less. The mantissa of `m` seconds divided by a
thousand is `m * 2 ^ k / 1000`, rounded. It is a loss if more than `256 / 1000` of a unit is rounded off and
the mantissa is so small that its product with a thousand is rounded in units of `2 ^ 9`. -/
def LosesMillisecond (m : Nat) : Prop :=
  ∃ k < 62, 1000 * 2 ^ 52 ≤ m * 2 ^ k ∧ m * 2 ^ k < 2 ^ 62 ∧
    256 < m * 2 ^ k % 1000 ∧ m * 2 ^ k % 1000 < 500

instance (m : Nat) : Decidable (LosesMillisecond m) :=
  inferInstanceAs (Decidable (∃ k < 62, _))

theorem losesMillisecond_iff {m k : Nat} (hk : k < 63) (h : Normal m 1000 k) :
    LosesMillisecond m ↔
      m * 2 ^ k < 2 ^ 62 ∧ 256 < m * 2 ^ k % 1000 ∧ m * 2 ^ k % 1000 < 500 := by
  constructor
  · rintro ⟨i, -, hlow, hhigh, hrest⟩
    obtain rfl : i = k := Normal.unique ⟨hlow, by omega⟩ h
    exact ⟨hhigh, hrest⟩
  · rintro ⟨hhigh, hrest⟩
    refine ⟨k, ?_, h.low, hhigh, hrest⟩
    by_contra hk'
    obtain rfl : k = 62 := by omega
    omega

theorem exists_normal {m : Nat} (hpos : 0 < m) (hm : m < 2 ^ 48) :
    ∃ k, 14 ≤ k ∧ k < 63 ∧ Normal m 1000 k := by
  have hlog : m.log2 < 48 := (Nat.log2_lt hpos.ne').2 hm
  obtain ⟨k, hk⟩ : ∃ k, m.log2 + k = 61 := ⟨61 - m.log2, by omega⟩
  have hlow : 2 ^ 61 ≤ m * 2 ^ k := by
    rw [← hk, Nat.pow_add]
    exact Nat.mul_le_mul_right _ (Nat.log2_self_le hpos.ne')
  have hhigh : m * 2 ^ k < 2 ^ 62 := by
    have hsum : 62 = m.log2 + 1 + k := by omega
    rw [hsum, Nat.pow_add]
    exact Nat.mul_lt_mul_of_pos_right Nat.lt_log2_self (Nat.two_pow_pos k)
  by_cases hfit : 1000 * 2 ^ 52 ≤ m * 2 ^ k
  · exact ⟨k, by omega, by omega, hfit, by omega⟩
  · have hdouble : m * 2 ^ (k + 1) = 2 * (m * 2 ^ k) := by ring
    exact ⟨k + 1, by omega, by omega, by omega, by omega⟩

theorem truncate?_seconds (negative : Bool) {m k : Nat} (hk : 11 ≤ k) (hk' : k < 63)
    (h : Normal m 1000 k) :
    truncate? (scaleBy 1000 (ofRatio negative (m * 1000) 1000000)) =
      some (signed negative (if m * 2 ^ k < 2 ^ 62 ∧ 256 < m * 2 ^ k % 1000 ∧
        m * 2 ^ k % 1000 < 500 then m - 1 else m)) := by
  -- No multiple of `2048` lies half way between two of a thousand, so that no tie has to be broken.
  obtain ⟨n, hn⟩ : ∃ n, m * 2 ^ k = 2048 * n := by
    obtain ⟨i, rfl⟩ := Nat.exists_eq_add_of_le hk
    exact ⟨m * 2 ^ i, by ring⟩
  have hseconds : ofRatio negative (m * 1000) 1000000 =
      pack negative (halfEven (m * 2 ^ k) 1000) (-k) := by
    rw [(h.mul_mul (c := 1000) (by decide)).ofRatio_eq (by decide) (by omega),
      Nat.mul_right_comm, halfEven_mul_mul _ (by decide)]
  obtain ⟨hnear, hnear'⟩ := halfEven_near (m * 2 ^ k) 1000 (by decide)
  obtain ⟨hlow, hhigh⟩ := h
  rw [hseconds]
  generalize halfEven (m * 2 ^ k) 1000 = h at hnear hnear' ⊢
  -- A product with a thousand has ten bits more than a mantissa, or nine if the mantissa is small.
  by_cases hbits : h * 1000 < 2 ^ 62
  · obtain ⟨j, rfl⟩ := Nat.exists_eq_add_of_le (show 9 ≤ k by omega)
    rw [truncate?_scaleBy negative (by omega) (by omega) (by omega) (by decide) (by omega)
      (by omega) hnear hnear']
    rw [hn] at hnear hnear' ⊢
    have hround : h = 2048 * n / 1000 ∨ h = 2048 * n / 1000 + 1 := by omega
    have hiff : 2 * (2048 * n) ≤ 2 * (h * 1000) + 2 ^ 9 ↔
        ¬ (2048 * n < 2 ^ 62 ∧ 256 < 2048 * n % 1000 ∧ 2048 * n % 1000 < 500) := by
      rcases hround with rfl | rfl <;> omega
    simp only [hiff, ite_not]
  · obtain ⟨j, rfl⟩ := Nat.exists_eq_add_of_le (show 10 ≤ k by omega)
    rw [truncate?_scaleBy negative (by omega) (by omega) (by omega) (by decide) (by omega)
      (by omega) hnear hnear', if_pos (by omega), if_neg (by omega)]

theorem milliseconds_zero : milliseconds 0 = 0 := by
  have hseconds : realSeconds 0 = zero false := rfl
  have hproduct : scaleBy 1000 (zero false) = zero false := by simp [scaleBy, zero, ofRatio]
  have hwhole : truncate? (zero false) = some 0 := by simp [zero, truncate?]
  rw [milliseconds, hseconds, hproduct, hwhole, Option.getD_some]

/-- Whole milliseconds are reported as they are, or as the neighbour that is nearer to 1970. -/
theorem milliseconds_whole {m : Int} (h : inRange (m * 1000)) :
    milliseconds (m * 1000) = if LosesMillisecond m.natAbs then m - m.sign else m := by
  obtain rfl | hm := eq_or_ne m 0
  · simpa using milliseconds_zero
  have hbound : m.natAbs < 2 ^ 48 := by
    rw [inRange_iff] at h
    omega
  obtain ⟨k, hk, hk', hnormal⟩ := exists_normal (Int.natAbs_pos.2 hm) hbound
  have habs : (m * 1000).natAbs = m.natAbs * 1000 := Int.natAbs_mul m 1000
  rw [milliseconds, realSeconds, ofIntRatio, habs, truncate?_seconds _ (by omega) hk' hnormal,
    Option.getD_some]
  simp only [losesMillisecond_iff hk' hnormal]
  rcases lt_or_gt_of_ne hm with hneg | hpos
  · have hsign : m * 1000 < 0 := by omega
    rw [Int.sign_eq_neg_one_of_neg hneg, signed, if_pos (decide_eq_true hsign)]
    split <;> omega
  · have hsign : ¬ m * 1000 < 0 := by omega
    rw [Int.sign_eq_one_of_pos hpos, signed, if_neg (by simpa using hsign)]
    split <;> omega

/-- No millisecond is lost from November 2004 to January 2038. -/
theorem milliseconds_of_recent {m : Int} (hlow : 2 ^ 40 ≤ m) (hhigh : m < 1000 * 2 ^ 31) :
    milliseconds (m * 1000) = m := by
  have hrange : inRange (m * 1000) := by
    rw [inRange_iff]
    omega
  have hnormal : Normal m.natAbs 1000 22 := ⟨by omega, by omega⟩
  have hkept : ¬ LosesMillisecond m.natAbs := by
    rw [losesMillisecond_iff (by decide) hnormal]
    omega
  rw [milliseconds_whole hrange, if_neg hkept]

end Clock

end AccessDirectory
