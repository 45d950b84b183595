import Mathlib.Tactic
import RenderBridge.Number.Word
/-!
Rounding to multiples, and the powers of two that buffers grow to.

* `dvd_alignUp`, `le_alignUp`, `alignUp_le`: below the top of the range, `alignUp` is the least
  multiple that is not smaller.
* `isLeast_alignUp`, `isGreatest_alignUp`: the least multiple that is not smaller, where that is a
  word, and the greatest word that is a multiple, where it is not; `alignUp_mono`,
  `alignUp_alignUp`: what follows for two numbers, and for one rounded twice.
* `two_pow_le_alignUp_top`: at the top of the range, rounding to a power of two stays in the upper
  half.
* `powerOfTwoFrom_isLeast`: `powerOfTwoFrom` is the least power of two from a number on.
* `le_grownCapacity`: a ring grows to at least what it is asked for.
-/

set_option autoImplicit false

namespace RenderBridge.Word

/-! ### Rounding up -/

variable {value alignment : ℕ}

lemma dvd_alignUp (value alignment : ℕ) : alignment ∣ alignUp value alignment := by
  rw [alignUp]
  split
  · exact Nat.dvd_mul_left _ _
  · exact Nat.dvd_mul_left _ _

lemma alignUp_lt_range (value alignment : ℕ) : alignUp value alignment < range := by
  rw [alignUp]
  split
  · rename_i h
    exact lt_of_le_of_lt (Nat.div_mul_le_self _ _) h
  · exact lt_of_le_of_lt (Nat.div_mul_le_self _ _) (by decide)

lemma alignUp_of_lt (h : value + (alignment - 1) < range) :
    alignUp value alignment = (value + (alignment - 1)) / alignment * alignment := by
  rw [alignUp, if_pos h]

lemma alignUp_of_range_le (h : range ≤ value + (alignment - 1)) :
    alignUp value alignment = (range - 1) / alignment * alignment := by
  rw [alignUp, if_neg (by omega)]

lemma le_alignUp (pos : 0 < alignment) (h : value + (alignment - 1) < range) :
    value ≤ alignUp value alignment := by
  rw [alignUp_of_lt h]
  have hdiv := Nat.div_add_mod (value + (alignment - 1)) alignment
  have hmod := Nat.mod_lt (value + (alignment - 1)) pos
  rw [Nat.mul_comm] at hdiv
  omega

/-- No multiple from `value` on is smaller. -/
lemma alignUp_le {bound : ℕ} (pos : 0 < alignment) (h : value + (alignment - 1) < range)
    (hdvd : alignment ∣ bound) (hle : value ≤ bound) : alignUp value alignment ≤ bound := by
  obtain ⟨q, rfl⟩ := hdvd
  rw [alignUp_of_lt h, Nat.mul_comm alignment q]
  refine Nat.mul_le_mul_right _ (Nat.le_of_lt_succ ?_)
  rw [Nat.div_lt_iff_lt_mul pos, Nat.succ_mul, Nat.mul_comm q alignment]
  omega

lemma alignUp_of_dvd (pos : 0 < alignment) (h : value + (alignment - 1) < range)
    (hdvd : alignment ∣ value) : alignUp value alignment = value :=
  le_antisymm (alignUp_le pos h hdvd le_rfl) (le_alignUp pos h)

/-- Rounding down does not go above rounding up what is larger. -/
lemma div_mul_le_alignUp {bound : ℕ} (pos : 0 < alignment) (hle : value ≤ bound)
    (hbound : bound < range) : value / alignment * alignment ≤ alignUp bound alignment := by
  by_cases h : bound + (alignment - 1) < range
  · calc value / alignment * alignment ≤ value := Nat.div_mul_le_self _ _
      _ ≤ bound := hle
      _ ≤ alignUp bound alignment := le_alignUp pos h
  · rw [alignUp_of_range_le (not_lt.mp h)]
    exact Nat.mul_le_mul_right _ (Nat.div_le_div_right (by omega))

/-- At the top of the range, rounding to a power of two gives at least half of the range. -/
lemma two_pow_le_alignUp_top {k : ℕ} (hk : k < 64) (h : range ≤ value + (2 ^ k - 1)) :
    2 ^ 63 ≤ alignUp value (2 ^ k) := by
  obtain ⟨q, hq⟩ : 2 ^ k ∣ 2 ^ 63 := Nat.pow_dvd_pow 2 (by omega)
  have hle : q ≤ (range - 1) / 2 ^ k := by
    rw [Nat.le_div_iff_mul_le (by positivity), Nat.mul_comm, ← hq]
    decide
  calc 2 ^ 63 = q * 2 ^ k := by rw [hq, Nat.mul_comm]
    _ ≤ (range - 1) / 2 ^ k * 2 ^ k := Nat.mul_le_mul_right _ hle
    _ = alignUp value (2 ^ k) := (alignUp_of_range_le h).symm

/-! ### Exactness -/

/-- No multiple in the range is greater than the one that rounding ends at. -/
lemma le_top_of_dvd {bound : ℕ} (hdvd : alignment ∣ bound) (hbound : bound < range) :
    bound ≤ (range - 1) / alignment * alignment := by
  calc bound = bound / alignment * alignment := (Nat.div_mul_cancel hdvd).symm
    _ ≤ (range - 1) / alignment * alignment :=
      Nat.mul_le_mul_right _ (Nat.div_le_div_right (by omega))

/-- Where a multiple from `value` on is a word, rounding up gives the least one. -/
lemma isLeast_alignUp (pos : 0 < alignment) (h : ∃ m < range, alignment ∣ m ∧ value ≤ m) :
    IsLeast {m | alignment ∣ m ∧ value ≤ m} (alignUp value alignment) := by
  by_cases hsum : value + (alignment - 1) < range
  · exact ⟨⟨dvd_alignUp _ _, le_alignUp pos hsum⟩,
      fun m ⟨hdvd, hle⟩ => alignUp_le pos hsum hdvd hle⟩
  · obtain ⟨m, hm, hdvd, hle⟩ := h
    have htop := alignUp_of_range_le (not_lt.mp hsum)
    refine ⟨⟨dvd_alignUp _ _, ?_⟩, fun m' ⟨hdvd', hle'⟩ => ?_⟩
    · rw [htop]
      exact hle.trans (le_top_of_dvd hdvd hm)
    · -- A smaller multiple would leave room for the sum that overflowed.
      by_contra hlt
      have hgap : alignment ≤ alignUp value alignment - m' :=
        Nat.le_of_dvd (by omega) (Nat.dvd_sub (dvd_alignUp _ _) hdvd')
      have hword := alignUp_lt_range value alignment
      omega

/-- Where no multiple from `value` on is a word, rounding up gives the greatest word that is a
multiple. -/
lemma isGreatest_alignUp (pos : 0 < alignment)
    (h : ¬ ∃ m < range, alignment ∣ m ∧ value ≤ m) :
    IsGreatest {m | alignment ∣ m ∧ m < range} (alignUp value alignment) := by
  have hword := alignUp_lt_range value alignment
  refine ⟨⟨dvd_alignUp _ _, hword⟩, fun m ⟨hdvd, hm⟩ => ?_⟩
  have hsum : range ≤ value + (alignment - 1) := by
    by_contra hsum
    exact h ⟨_, hword, dvd_alignUp _ _, le_alignUp pos (not_le.mp hsum)⟩
  rw [alignUp_of_range_le hsum]
  exact le_top_of_dvd hdvd hm

lemma alignUp_mono (alignment : ℕ) : Monotone (alignUp · alignment) := by
  intro a b hab
  dsimp only
  by_cases hb : b + (alignment - 1) < range
  · rw [alignUp_of_lt hb, alignUp_of_lt (lt_of_le_of_lt (Nat.add_le_add_right hab _) hb)]
    exact Nat.mul_le_mul_right _ (Nat.div_le_div_right (Nat.add_le_add_right hab _))
  · rw [alignUp_of_range_le (not_lt.mp hb)]
    exact le_top_of_dvd (dvd_alignUp _ _) (alignUp_lt_range _ _)

/-- What is rounded stays as it is. -/
lemma alignUp_alignUp (pos : 0 < alignment) (value : ℕ) :
    alignUp (alignUp value alignment) alignment = alignUp value alignment := by
  have hself : IsLeast {m | alignment ∣ m ∧ alignUp value alignment ≤ m}
      (alignUp value alignment) := ⟨⟨dvd_alignUp _ _, le_rfl⟩, fun _ h => h.2⟩
  exact (isLeast_alignUp pos ⟨_, alignUp_lt_range _ _, dvd_alignUp _ _, le_rfl⟩).unique hself

/-- In the lower half of the range rounding up does not fall short, whatever the alignment. -/
lemma le_alignUp_of_lt (hword : alignment < range) (pos : 0 < alignment) (h : value < 2 ^ 63) :
    value ≤ alignUp value alignment := by
  refine (isLeast_alignUp pos ?_).1.2
  by_cases hsum : value + (alignment - 1) < range
  · exact ⟨_, alignUp_lt_range _ _, dvd_alignUp _ _, le_alignUp pos hsum⟩
  · refine ⟨alignment, hword, dvd_rfl, ?_⟩
    rw [range] at hsum
    omega

/-! ### Powers of two -/

lemma le_powerOfTwoFrom (n : ℕ) : n ≤ powerOfTwoFrom n := by
  rw [powerOfTwoFrom]
  split
  · assumption
  · have h : n - 1 < 2 ^ ((n - 1).log2 + 1) := Nat.lt_log2_self
    have hpow : Nat.pow 2 ((n - 1).log2 + 1) = 2 ^ ((n - 1).log2 + 1) := rfl
    omega

lemma powerOfTwoFrom_le {n k : ℕ} (h : n ≤ 2 ^ k) : powerOfTwoFrom n ≤ 2 ^ k := by
  rw [powerOfTwoFrom]
  split
  · exact Nat.one_le_two_pow
  · have hlog : (n - 1).log2 < k := (Nat.log2_lt (by omega)).mpr (by omega)
    exact Nat.pow_le_pow_right (by decide) hlog

lemma exists_powerOfTwoFrom_eq (n : ℕ) : ∃ k, powerOfTwoFrom n = 2 ^ k := by
  rw [powerOfTwoFrom]
  split
  · exact ⟨0, rfl⟩
  · exact ⟨_, rfl⟩

/-- No power of two from `n` on is smaller. -/
lemma powerOfTwoFrom_isLeast (n : ℕ) :
    IsLeast {m | n ≤ m ∧ ∃ k, m = 2 ^ k} (powerOfTwoFrom n) := by
  refine ⟨⟨le_powerOfTwoFrom n, exists_powerOfTwoFrom_eq n⟩, ?_⟩
  rintro m ⟨hle, k, rfl⟩
  exact powerOfTwoFrom_le hle

/-- Large powers of two are multiples of the small ones. -/
lemma two_pow_dvd_powerOfTwoFrom {n k : ℕ} (h : 2 ^ k ≤ n) : 2 ^ k ∣ powerOfTwoFrom n := by
  obtain ⟨j, hj⟩ := exists_powerOfTwoFrom_eq n
  have hle : 2 ^ k ≤ 2 ^ j := by
    rw [← hj]
    exact h.trans (le_powerOfTwoFrom n)
  rw [hj]
  exact Nat.pow_dvd_pow 2 ((Nat.pow_le_pow_iff_right (by decide)).mp hle)

lemma grownCapacity_eq {n k : ℕ} (h : n ≤ 2 ^ k) (hk : k < 64) :
    grownCapacity n = powerOfTwoFrom n := by
  have hpow : 2 ^ k < range := Nat.pow_lt_pow_right (by decide) hk
  rw [grownCapacity, if_pos (lt_of_le_of_lt (powerOfTwoFrom_le h) hpow)]

lemma le_grownCapacity (n : ℕ) : n ≤ grownCapacity n := by
  rw [grownCapacity]
  split
  · exact le_powerOfTwoFrom n
  · exact le_rfl

lemma grownCapacity_le {n k : ℕ} (h : n ≤ 2 ^ k) (hk : k < 64) : grownCapacity n ≤ 2 ^ k := by
  rw [grownCapacity_eq h hk]
  exact powerOfTwoFrom_le h

end RenderBridge.Word
