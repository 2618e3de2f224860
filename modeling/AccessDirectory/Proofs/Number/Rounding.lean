import AccessDirectory.Proofs.Number.Whole
import Mathlib.Tactic.SplitIfs

/-! Rounding to the nearest number of 53 bits. The exponent of a ratio is the one at which its mantissa
has these bits, and there is only one. A whole part that is taken after a rounding depends on no more than
the side on which the rounding ends. -/

namespace AccessDirectory.Binary64

theorem halfEven_mul_mul (num : Nat) {den c : Nat} (hc : 0 < c) :
    halfEven (num * c) (den * c) = halfEven num den := by
  have hassoc : 2 * (num % den * c) = 2 * (num % den) * c := (Nat.mul_assoc ..).symm
  unfold halfEven
  simp only [Nat.mul_div_mul_right _ _ hc, Nat.mul_mod_mul_right, hassoc, Nat.mul_lt_mul_right hc]

theorem le_halfEven_iff {num den q : Nat} (hden : 0 < den) (heven : q % 2 = 0) :
    q ≤ halfEven num den ↔ 2 * (q * den) ≤ 2 * num + den := by
  constructor
  · intro h
    have hmono : q * den ≤ halfEven num den * den := Nat.mul_le_mul_right den h
    have hnear := (halfEven_near num den hden).2
    rw [Nat.mul_assoc] at hnear
    omega
  · intro h
    have hdiv : num / den * den + num % den = num := Nat.div_add_mod' num den
    have hmod : num % den < den := Nat.mod_lt num hden
    have hq : q < num / den + 2 := by
      refine Nat.lt_of_mul_lt_mul_right (a := den) ?_
      rw [Nat.add_mul]
      omega
    unfold halfEven
    simp only
    by_cases hup : q = num / den + 1
    · rw [hup, Nat.add_mul] at h
      split_ifs <;> omega
    · split_ifs <;> omega

/-- The whole part after a rounding to units of `1 / 2 ^ j`, for a ratio less than a unit away from a
whole number. -/
theorem halfEven_div {num den m j : Nat} (hden : 0 < den) (hj : 1 ≤ j)
    (hlow : m * 2 ^ j * den < num + den) (hhigh : num < m * 2 ^ j * den + den) :
    halfEven num den / 2 ^ j = if 2 * (m * 2 ^ j * den) ≤ 2 * num + den then m else m - 1 := by
  have htwo : 2 ≤ 2 ^ j := Nat.le_self_pow (by omega) 2
  have heven : m * 2 ^ j % 2 = 0 := by
    obtain ⟨i, rfl⟩ : ∃ i, j = i + 1 := ⟨j - 1, by omega⟩
    rw [Nat.pow_succ, ← Nat.mul_assoc, Nat.mul_mod_left]
  obtain ⟨hnear, hnear'⟩ := halfEven_near num den hden
  rw [Nat.mul_assoc] at hnear hnear'
  have hupper : halfEven num den < m * 2 ^ j + 2 := by
    refine Nat.lt_of_mul_lt_mul_right (a := den) ?_
    rw [Nat.add_mul]
    omega
  have hlower : m * 2 ^ j < halfEven num den + 2 := by
    refine Nat.lt_of_mul_lt_mul_right (a := den) ?_
    rw [Nat.add_mul]
    omega
  -- Within a unit of a whole number, all that counts is on which side of it rounding ends.
  have hle : m * 2 ^ j ≤ halfEven num den ↔ _ := le_halfEven_iff hden heven
  split
  next h =>
    refine Nat.div_eq_of_lt_le (hle.2 h) ?_
    rw [Nat.succ_mul]
    omega
  next h =>
    have hless : halfEven num den < m * 2 ^ j := Nat.lt_of_not_le (mt hle.1 h)
    have hm : m ≠ 0 := by
      rintro rfl
      omega
    obtain ⟨n, rfl⟩ := Nat.exists_eq_succ_of_ne_zero hm
    rw [Nat.succ_mul] at hless hlower
    refine Nat.div_eq_of_lt_le ?_ ?_
    · rw [Nat.succ_sub_one]
      omega
    · rw [Nat.succ_sub_one, Nat.succ_mul]
      exact hless

structure Normal (num den j : Nat) : Prop where
  low : den * 2 ^ 52 ≤ num * 2 ^ j
  high : num * 2 ^ j < den * 2 ^ 53

namespace Normal
variable {num den i j : Nat}

theorem pos (h : Normal num den j) (hden : 0 < den) : 0 < num := by
  refine Nat.pos_of_ne_zero ?_
  rintro rfl
  have := h.low
  omega

theorem le (hi : Normal num den i) (hj : Normal num den j) : j ≤ i := by
  by_contra hij
  have hpow : num * 2 ^ (i + 1) ≤ num * 2 ^ j :=
    Nat.mul_le_mul_left num (Nat.pow_le_pow_right (by decide) (by omega))
  have hlow := hi.low
  have hhigh := hj.high
  rw [Nat.pow_succ, ← Nat.mul_assoc] at hpow
  omega

theorem unique (hi : Normal num den i) (hj : Normal num den j) : i = j :=
  Nat.le_antisymm (hj.le hi) (hi.le hj)

theorem mul_mul (h : Normal num den j) {c : Nat} (hc : 0 < c) : Normal (num * c) (den * c) j where
  low := by
    rw [Nat.mul_right_comm, Nat.mul_right_comm num]
    exact Nat.mul_le_mul_right c h.low
  high := by
    rw [Nat.mul_right_comm, Nat.mul_right_comm den]
    exact Nat.mul_lt_mul_of_pos_right h.high hc

theorem log2_sub (h : Normal num den j) (hden : 0 < den) :
    (num.log2 : Int) - den.log2 - 53 = -j ∨ (num.log2 : Int) - den.log2 - 53 = -(j + 1 : Nat) := by
  have hnumLow : 2 ^ num.log2 ≤ num := Nat.log2_self_le (h.pos hden).ne'
  have hnumHigh : num < 2 ^ (num.log2 + 1) := Nat.lt_log2_self
  have hdenLow : 2 ^ den.log2 ≤ den := Nat.log2_self_le hden.ne'
  have hdenHigh : den < 2 ^ (den.log2 + 1) := Nat.lt_log2_self
  have hupper : num.log2 + j < den.log2 + 54 := by
    refine (Nat.pow_lt_pow_iff_right (a := 2) (by decide)).1 ?_
    calc 2 ^ (num.log2 + j) = 2 ^ num.log2 * 2 ^ j := Nat.pow_add ..
      _ ≤ num * 2 ^ j := Nat.mul_le_mul_right _ hnumLow
      _ < den * 2 ^ 53 := h.high
      _ ≤ 2 ^ (den.log2 + 1) * 2 ^ 53 := Nat.mul_le_mul_right _ hdenHigh.le
      _ = 2 ^ (den.log2 + 54) := (Nat.pow_add ..).symm
  have hlower : den.log2 + 52 < num.log2 + 1 + j := by
    refine (Nat.pow_lt_pow_iff_right (a := 2) (by decide)).1 ?_
    calc 2 ^ (den.log2 + 52) = 2 ^ den.log2 * 2 ^ 52 := Nat.pow_add ..
      _ ≤ den * 2 ^ 52 := Nat.mul_le_mul_right _ hdenLow
      _ ≤ num * 2 ^ j := h.low
      _ < 2 ^ (num.log2 + 1) * 2 ^ j := Nat.mul_lt_mul_of_pos_right hnumHigh (Nat.two_pow_pos j)
      _ = 2 ^ (num.log2 + 1 + j) := (Nat.pow_add ..).symm
  omega

theorem exponentFor_eq (h : Normal num den j) (hden : 0 < den) (hj : j ≤ 1073) :
    exponentFor num den = -j := by
  unfold exponentFor
  rcases h.log2_sub hden with hlog | hlog
  · have hguess : max leastExponent (-(j : Int)) = -j := by
      unfold leastExponent
      omega
    have hfit : num * 2 ^ j / den < 2 ^ 53 :=
      (Nat.div_lt_iff_lt_mul hden).2 (h.high.trans_eq (Nat.mul_comm ..))
    have hzero : (-(j : Int)).toNat = 0 := by omega
    simp only [hlog, hguess, scale, Int.neg_neg, Int.toNat_natCast, hzero, Nat.pow_eq, Nat.pow_zero,
      Nat.mul_one]
    rw [if_pos hfit]
  · -- The numbers of bits were one off, which shows in a quotient of 54 bits.
    have hguess : max leastExponent (-((j + 1 : Nat) : Int)) = -(j + 1 : Nat) := by
      unfold leastExponent
      omega
    have hfit : ¬ num * 2 ^ (j + 1) / den < 2 ^ 53 := by
      have hlow := h.low
      rw [Nat.div_lt_iff_lt_mul hden, Nat.pow_succ, ← Nat.mul_assoc]
      omega
    have hzero : (-((j + 1 : Nat) : Int)).toNat = 0 := by omega
    simp only [hlog, hguess, scale, Int.neg_neg, Int.toNat_natCast, hzero, Nat.pow_eq, Nat.pow_zero,
      Nat.mul_one]
    rw [if_neg hfit]
    omega

theorem ofRatio_eq (h : Normal num den j) (hden : 0 < den) (hj : j ≤ 1073) (negative : Bool) :
    ofRatio negative num den = pack negative (halfEven (num * 2 ^ j) den) (-j) := by
  have hzero : (-(j : Int)).toNat = 0 := by omega
  unfold ofRatio
  simp only [if_neg (h.pos hden).ne', h.exponentFor_eq hden hj, scale, Int.neg_neg,
    Int.toNat_natCast, hzero, Nat.pow_eq, Nat.pow_zero, Nat.mul_one]

end Normal

/-- A number of `53 + s` bits above a power of two loses the last `s` bits. -/
theorem ofRatio_two_pow (negative : Bool) {num s j : Nat} (hj : j ≤ 1073)
    (hlow : 2 ^ (s + 52) ≤ num) (hhigh : num < 2 ^ (s + 53)) :
    ofRatio negative num (2 ^ (s + j)) = pack negative (halfEven num (2 ^ s)) (-j) := by
  have hnormal : Normal num (2 ^ (s + j)) j := by
    constructor
    · calc 2 ^ (s + j) * 2 ^ 52 = 2 ^ (s + 52) * 2 ^ j := by ring
        _ ≤ num * 2 ^ j := Nat.mul_le_mul_right _ hlow
    · calc num * 2 ^ j < 2 ^ (s + 53) * 2 ^ j :=
          Nat.mul_lt_mul_of_pos_right hhigh (Nat.two_pow_pos j)
        _ = 2 ^ (s + j) * 2 ^ 53 := by ring
  rw [hnormal.ofRatio_eq (Nat.two_pow_pos _) hj, Nat.pow_add,
    halfEven_mul_mul num (Nat.two_pow_pos j)]

theorem pack_of_lt (negative : Bool) {h j : Nat} (hh : h < 2 ^ 53) :
    pack negative h (-j) = finite negative h (-j) := by
  have hne : h ≠ Nat.pow 2 53 := hh.ne
  unfold pack
  simp only [if_neg hne]
  rw [if_neg (by unfold greatestExponent; omega)]

theorem truncate?_pack (negative : Bool) (h j : Nat) :
    truncate? (pack negative h (-(j + 1 : Nat))) = some (signed negative (h / 2 ^ (j + 1))) := by
  by_cases hm : h = Nat.pow 2 53
  · -- Rounding has carried into another bit, which the exponent makes up for.
    have hnext : -((j + 1 : Nat) : Int) + 1 = -(j : Int) := by omega
    have hzero : (-(j : Int)).toNat = 0 := by omega
    have hhalf : Nat.pow 2 53 / 2 ^ (j + 1) = Nat.pow 2 52 / 2 ^ j := by
      rw [Nat.pow_succ', ← Nat.div_div_eq_div_mul]
    unfold pack
    simp only [hm, if_true, hnext]
    rw [if_neg (by unfold greatestExponent; omega)]
    simp only [truncate?, hzero, Int.neg_neg, Int.toNat_natCast, Nat.pow_eq, Nat.pow_zero,
      Nat.mul_one] at hhalf ⊢
    rw [signed, hhalf]
  · have hzero : (-((j + 1 : Nat) : Int)).toNat = 0 := by omega
    unfold pack
    simp only [hm, if_false]
    rw [if_neg (by unfold greatestExponent; omega)]
    simp only [truncate?, hzero, Int.neg_neg, Int.toNat_natCast, Nat.pow_eq, Nat.pow_zero,
      Nat.mul_one]
    rfl

end AccessDirectory.Binary64
