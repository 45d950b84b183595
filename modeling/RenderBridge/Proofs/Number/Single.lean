import Mathlib.Tactic
import RenderBridge.Number.Single
/-!
Single-precision numbers that are integers, and arithmetic on them.

* `Single.fieldSteps`: the value of a magnitude field; it grows strictly (`fieldSteps_strictMono`).
* `Single.rounded`: what a number of steps is rounded to: exact where few bits are kept
  (`rounded_of_dvd`), at most twice the number, and a multiple of what the number is a multiple of.
* `Single.Is`: a single that is an integer. Sums and differences of such are integers again
  (`Is.exists_add`, `Is.exists_sub`), and exact up to `2 ^ 24` (`Is.add`, `Is.sub`); order, `max`,
  `min` and `toWord` are those of the integers.
-/

set_option autoImplicit false

namespace RenderBridge.Single

/-! ### Magnitude fields -/

/-- The absolute value that a magnitude field stands for, in steps. -/
def fieldSteps (m : ℕ) : ℕ :=
  if m / hiddenBit = 0 then m % hiddenBit
  else (hiddenBit + m % hiddenBit) * 2 ^ (m / hiddenBit - 1)

lemma absSteps_eq (x : Single) : x.absSteps = fieldSteps x.magnitude := rfl

/-- A field put together from an exponent and leading bits. A carry out of the leading bits moves
into the exponent. -/
lemma fieldSteps_add {shift q : ℕ} (hq : q ≤ 2 * hiddenBit) (hlead : shift = 0 ∨ hiddenBit ≤ q) :
    fieldSteps (shift * hiddenBit + q) = q * 2 ^ shift := by
  have hparts (exponent fraction : ℕ) (hfraction : fraction < hiddenBit)
      (hsum : shift * hiddenBit + q = exponent * hiddenBit + fraction) :
      fieldSteps (shift * hiddenBit + q) =
        if exponent = 0 then fraction else (hiddenBit + fraction) * 2 ^ (exponent - 1) := by
    have hdiv : (exponent * hiddenBit + fraction) / hiddenBit = exponent := by
      rw [Nat.mul_comm, Nat.mul_add_div (by decide), Nat.div_eq_of_lt hfraction, Nat.add_zero]
    have hmod : (exponent * hiddenBit + fraction) % hiddenBit = fraction := by
      rw [Nat.mul_comm, Nat.mul_add_mod, Nat.mod_eq_of_lt hfraction]
    rw [hsum, fieldSteps, hdiv, hmod]
  by_cases hlow : q < hiddenBit
  · obtain rfl : shift = 0 := by omega
    rw [hparts 0 q hlow rfl, if_pos rfl, pow_zero, mul_one]
  · by_cases hcarry : q = 2 * hiddenBit
    · rw [hparts (shift + 2) 0 (by decide) (by rw [hcarry]; ring), if_neg (Nat.succ_ne_zero _),
        hcarry, Nat.add_sub_assoc (by decide), pow_add]
      ring
    · rw [hparts (shift + 1) (q - hiddenBit) (by omega) (by rw [Nat.succ_mul]; omega),
        if_neg (Nat.succ_ne_zero _), Nat.add_sub_cancel, Nat.add_sub_cancel' (by omega)]

/-- Greater fields stand for greater values. -/
lemma fieldSteps_strictMono : StrictMono fieldSteps := by
  refine strictMono_nat_of_lt_succ fun m => ?_
  -- The field and its successor share an exponent, where `2 * hiddenBit` counts as leading bits.
  obtain ⟨shift, q, hm, hq, hlead⟩ : ∃ shift q, m = shift * hiddenBit + q ∧
      q + 1 ≤ 2 * hiddenBit ∧ (shift = 0 ∨ hiddenBit ≤ q) := by
    refine ⟨m / hiddenBit - 1, m - (m / hiddenBit - 1) * hiddenBit, ?_, ?_, ?_⟩
    · simp only [hiddenBit]
      omega
    · simp only [hiddenBit]
      omega
    · simp only [hiddenBit]
      omega
  rw [hm, Nat.add_assoc, fieldSteps_add (by omega) hlead, fieldSteps_add hq (by omega)]
  exact Nat.mul_lt_mul_of_pos_right (Nat.lt_succ_self q) (Nat.two_pow_pos shift)

/-! ### Rounding -/

/-- What `n` steps are rounded to: twenty-four leading bits are kept. -/
def rounded (n : ℕ) : ℕ := roundShift n (n.log2 - 23) * 2 ^ (n.log2 - 23)

lemma roundShift_bounds (n shift : ℕ) :
    n / 2 ^ shift ≤ roundShift n shift ∧ roundShift n shift ≤ n / 2 ^ shift + 1 := by
  simp only [roundShift, Nat.pow_eq]
  split
  · exact ⟨Nat.le_succ _, le_rfl⟩
  · exact ⟨le_rfl, Nat.le_succ _⟩

lemma roundShift_of_dvd {n shift : ℕ} (h : 2 ^ shift ∣ n) :
    roundShift n shift = n / 2 ^ shift := by
  have hrest : n % 2 ^ shift = 0 := Nat.mod_eq_zero_of_dvd h
  have hpos : 0 < 2 ^ shift := Nat.two_pow_pos shift
  simp only [roundShift, Nat.pow_eq, hrest]
  rw [if_neg]
  omega

variable {n k : ℕ}

lemma rounded_of_dvd (h : 2 ^ (n.log2 - 23) ∣ n) : rounded n = n := by
  rw [rounded, roundShift_of_dvd h, Nat.div_mul_cancel h]

lemma two_pow_log2_le (hn : n ≠ 0) : 2 ^ (n.log2 - 23) ≤ n :=
  (Nat.pow_le_pow_right (by decide) (Nat.sub_le _ _)).trans (Nat.log2_self_le hn)

lemma rounded_le (n : ℕ) : rounded n ≤ 2 * n := by
  by_cases hn : n = 0
  · rw [hn]
    decide
  · calc rounded n
        ≤ (n / 2 ^ (n.log2 - 23) + 1) * 2 ^ (n.log2 - 23) :=
          Nat.mul_le_mul_right _ (roundShift_bounds n _).2
      _ = n / 2 ^ (n.log2 - 23) * 2 ^ (n.log2 - 23) + 2 ^ (n.log2 - 23) := Nat.succ_mul _ _
      _ ≤ n + n := Nat.add_le_add (Nat.div_mul_le_self _ _) (two_pow_log2_le hn)
      _ = 2 * n := (two_mul n).symm

/-- Rounding keeps factors of two. -/
lemma dvd_rounded (h : 2 ^ k ∣ n) : 2 ^ k ∣ rounded n := by
  rcases le_total k (n.log2 - 23) with hk | hk
  · exact Dvd.dvd.mul_left (pow_dvd_pow 2 hk) _
  · rw [rounded_of_dvd ((pow_dvd_pow 2 hk).trans h)]
    exact h

/-- Factors of two add to the length of a number. -/
lemma log2_mul_two_pow_lt {m a : ℕ} (ha : 0 < a) (h : m < 2 ^ a) (k : ℕ) :
    (m * 2 ^ k).log2 < a + k := by
  by_cases hm : m = 0
  · rw [hm, Nat.zero_mul]
    exact ha.trans_le (Nat.le_add_right a k)
  · rw [Nat.log2_lt (mul_ne_zero hm (Nat.two_pow_pos k).ne'), pow_add]
    exact Nat.mul_lt_mul_of_pos_right h (Nat.two_pow_pos k)

/-- What fits into twenty-four bits is kept, and so is the next number. -/
lemma rounded_mul_of_le {m : ℕ} (h : m ≤ 2 ^ 24) : rounded (m * 2 ^ k) = m * 2 ^ k := by
  refine rounded_of_dvd ?_
  rcases h.lt_or_eq with hlt | rfl
  · have hlog := log2_mul_two_pow_lt (by decide) hlt k
    exact dvd_mul_of_dvd_right (pow_dvd_pow 2 (by omega)) m
  · rw [← pow_add, Nat.log2_two_pow]
    exact pow_dvd_pow 2 (Nat.sub_le _ _)

/-- The magnitude that steps are rounded to, where it is not too large. -/
lemma roundMagnitude_spec (hlog : n.log2 < 276) :
    roundMagnitude n < infinityMagnitude ∧ fieldSteps (roundMagnitude n) = rounded n := by
  set shift := n.log2 - 23 with hshift
  set q := roundShift n shift with hround
  obtain ⟨hlow, hhigh⟩ := roundShift_bounds n shift
  have hupper : n / 2 ^ shift < 2 * hiddenBit := by
    rw [Nat.div_lt_iff_lt_mul (Nat.two_pow_pos shift)]
    calc n < 2 ^ (n.log2 + 1) := Nat.lt_log2_self
      _ ≤ 2 ^ (24 + shift) := Nat.pow_le_pow_right (by decide) (by omega)
      _ = 2 * hiddenBit * 2 ^ shift := by rw [pow_add]; rfl
  have hlead : shift = 0 ∨ hiddenBit ≤ q := by
    by_cases hzero : shift = 0
    · exact .inl hzero
    · refine .inr (le_trans ?_ hlow)
      have hn : n ≠ 0 := by
        rintro rfl
        exact hzero rfl
      rw [Nat.le_div_iff_mul_le (Nat.two_pow_pos shift)]
      calc hiddenBit * 2 ^ shift = 2 ^ (23 + shift) := by rw [pow_add]; rfl
        _ = 2 ^ n.log2 := by rw [hshift, Nat.add_sub_cancel' (by omega)]
        _ ≤ n := Nat.log2_self_le hn
  have hsmall : shift * hiddenBit + q < infinityMagnitude := by
    simp only [hiddenBit, infinityMagnitude] at hupper ⊢
    omega
  have hfield : roundMagnitude n = shift * hiddenBit + q := Nat.min_eq_left hsmall.le
  rw [hfield]
  exact ⟨hsmall, fieldSteps_add (by omega) hlead⟩

/-! ### Fields of a single -/

section

variable {x y : Single} {m : ℕ}

lemma toNat_ofFields (negative : Bool) (h : m < signBit) :
    (ofFields negative m).bits.toNat = m + if negative then signBit else 0 := by
  rw [ofFields, UInt32.toNat_ofNat']
  refine Nat.mod_eq_of_lt ?_
  simp only [signBit] at h ⊢
  split
  · omega
  · omega

lemma magnitude_ofFields (negative : Bool) (h : m < signBit) :
    (ofFields negative m).magnitude = m := by
  rw [magnitude, toNat_ofFields negative h]
  split
  · rw [Nat.add_mod_right, Nat.mod_eq_of_lt h]
  · rw [Nat.add_zero, Nat.mod_eq_of_lt h]

lemma negative_ofFields (negative : Bool) (h : m < signBit) :
    (ofFields negative m).negative = negative := by
  rw [Single.negative, toNat_ofFields negative h]
  cases negative with
  | false => exact decide_eq_false (by simpa using h)
  | true => exact decide_eq_true (Nat.le_add_left _ _)

lemma magnitude_lt (x : Single) : x.magnitude < signBit := Nat.mod_lt _ (by decide)

lemma infinityMagnitude_lt : infinityMagnitude < signBit := by decide

/-- A field with its sign, as a value. -/
lemma steps_ofFields (negative : Bool) (h : m < signBit) :
    (ofFields negative m).steps = if negative then -(fieldSteps m : ℤ) else fieldSteps m := by
  rw [steps, negative_ofFields negative h, absSteps_eq, magnitude_ofFields negative h]

/-- The value of a number of steps that is not too large, rounded. -/
lemma steps_ofSteps {z : ℤ} (h : z.natAbs.log2 < 276) :
    (ofSteps z).isFinite = true ∧
      (ofSteps z).steps = if z < 0 then -(rounded z.natAbs : ℤ) else rounded z.natAbs := by
  obtain ⟨hsmall, hvalue⟩ := roundMagnitude_spec h
  have hfield := hsmall.trans infinityMagnitude_lt
  constructor
  · rw [ofSteps, isFinite, magnitude_ofFields _ hfield]
    exact decide_eq_true hsmall
  · rw [ofSteps, steps_ofFields _ hfield, hvalue]
    simp only [decide_eq_true_eq]

/-- Finite singles are ordered as their values. -/
lemma rank_lt_iff (x y : Single) : x.rank < y.rank ↔ x.steps < y.steps := by
  have hxy := fieldSteps_strictMono.lt_iff_lt (a := x.magnitude) (b := y.magnitude)
  have hyx := fieldSteps_strictMono.lt_iff_lt (a := y.magnitude) (b := x.magnitude)
  have hx := fieldSteps_strictMono.lt_iff_lt (a := 0) (b := x.magnitude)
  have hy := fieldSteps_strictMono.lt_iff_lt (a := 0) (b := y.magnitude)
  have hzero : fieldSteps 0 = 0 := rfl
  rw [rank, rank, steps, steps, absSteps_eq, absSteps_eq]
  split
  · split
    · omega
    · omega
  · split
    · omega
    · omega

end

/-! ### Integers -/

/-- A finite single whose value is an integer. -/
structure Is (x : Single) (n : ℤ) : Prop where
  finite : x.isFinite = true
  steps_eq : x.steps = n * stepsOfOne

lemma stepsOfOne_pos : 0 < stepsOfOne := Nat.two_pow_pos 149

/-- An integer of up to 127 bits is rounded to an integer, up to `2 ^ 24` to itself. -/
lemma exists_is_ofInt {n : ℤ} (h : n.natAbs < 2 ^ 127) :
    ∃ k : ℤ, (ofInt n).Is k ∧ k.natAbs ≤ 2 * n.natAbs ∧ (n.natAbs ≤ 2 ^ 24 → k = n) := by
  have habs : (n * stepsOfOne).natAbs = n.natAbs * stepsOfOne := Int.natAbs_mul _ _
  have hlog : (n.natAbs * stepsOfOne).log2 < 127 + 149 := log2_mul_two_pow_lt (by decide) h 149
  obtain ⟨hfinite, hsteps⟩ := steps_ofSteps (z := n * stepsOfOne) (by rw [habs]; exact hlog)
  -- A multiple of the steps of one stays one when it is rounded.
  obtain ⟨r, hr⟩ : ∃ r, rounded (n.natAbs * stepsOfOne) = stepsOfOne * r :=
    dvd_rounded (k := 149) (Dvd.intro_left n.natAbs rfl)
  rw [Nat.mul_comm stepsOfOne] at hr
  have hle : r ≤ 2 * n.natAbs := by
    have hrounded := rounded_le (n.natAbs * stepsOfOne)
    rw [hr, ← Nat.mul_assoc] at hrounded
    exact Nat.le_of_mul_le_mul_right hrounded stepsOfOne_pos
  have hexact : n.natAbs ≤ 2 ^ 24 → r = n.natAbs := by
    intro hsmall
    have hrounded : rounded (n.natAbs * stepsOfOne) = n.natAbs * stepsOfOne :=
      rounded_mul_of_le (k := 149) hsmall
    rw [hr] at hrounded
    exact Nat.eq_of_mul_eq_mul_right stepsOfOne_pos hrounded
  have hneg : n * (stepsOfOne : ℤ) < 0 ↔ n < 0 := by
    have hpos : (0 : ℤ) < stepsOfOne := by exact_mod_cast stepsOfOne_pos
    rw [mul_neg_iff]
    omega
  rw [habs, hr, Nat.cast_mul] at hsteps
  simp only [hneg] at hsteps
  refine ⟨if n < 0 then -r else r, ⟨hfinite, ?_⟩, ?_, fun hsmall => ?_⟩
  · rw [ofInt, hsteps]
    split
    · exact (neg_mul _ _).symm
    · rfl
  · split
    · omega
    · omega
  · have hsame := hexact hsmall
    split
    · omega
    · omega

/-- Integers up to `2 ^ 24` are singles. -/
lemma is_ofInt {n : ℤ} (h : n.natAbs ≤ 2 ^ 24) : (ofInt n).Is n := by
  obtain ⟨k, hk, -, hexact⟩ := exists_is_ofInt (h.trans_lt (by norm_num))
  rw [hexact h] at hk
  exact hk

/-- Integers up to a bound are rounded to integers up to twice the bound. -/
lemma exists_is_ofInt_of_le {n : ℤ} {a : ℕ} (hn : n.natAbs ≤ a) (ha : a < 2 ^ 127) :
    ∃ k : ℤ, (ofInt n).Is k ∧ k.natAbs ≤ 2 * a := by
  obtain ⟨k, hk, hle, -⟩ := exists_is_ofInt (hn.trans_lt ha)
  exact ⟨k, hk, hle.trans (Nat.mul_le_mul_left 2 hn)⟩

namespace Is

variable {x y : Single} {n m : ℤ}

/-- Both zeros are the integer zero. -/
lemma ofFields_zero (negative : Bool) : (ofFields negative 0).Is 0 := by
  have hfield : 0 < signBit := by decide
  constructor
  · rw [isFinite, magnitude_ofFields _ hfield]
    decide
  · have hzero : fieldSteps 0 = 0 := rfl
    rw [steps_ofFields _ hfield, hzero, zero_mul]
    exact ite_self _

lemma zero : Single.zero.Is 0 := ofFields_zero false

lemma isNaN_eq (h : x.Is n) : x.isNaN = false := by
  have hfinite := of_decide_eq_true h.finite
  exact decide_eq_false hfinite.le.not_gt

lemma isInfinite_eq (h : x.Is n) : x.isInfinite = false := by
  have hfinite := of_decide_eq_true h.finite
  exact beq_eq_false_iff_ne.mpr hfinite.ne

/-- A single is one integer at most. -/
lemma unique (h : x.Is n) (h' : x.Is m) : n = m := by
  have hne : (stepsOfOne : ℤ) ≠ 0 := by exact_mod_cast stepsOfOne_pos.ne'
  exact mul_right_cancel₀ hne (h.steps_eq.symm.trans h'.steps_eq)

lemma neg (h : x.Is n) : x.neg.Is (-n) := by
  have hfield := x.magnitude_lt
  constructor
  · have hfinite := h.finite
    rw [isFinite] at hfinite ⊢
    rw [Single.neg, magnitude_ofFields _ hfield]
    exact hfinite
  · rw [Single.neg, steps_ofFields _ hfield, neg_mul, ← h.steps_eq, steps, absSteps_eq]
    cases x.negative with
    | false => rfl
    | true => exact (neg_neg _).symm

/-- The sum of two integers is what their exact sum is rounded to. -/
lemma add_of_ofInt (hx : x.Is n) (hy : y.Is m) {k : ℤ} (hk : (ofInt (n + m)).Is k) :
    (x.add y).Is k := by
  have hadd : x.add y = addFinite x y := by
    rw [Single.add, hx.isNaN_eq, hy.isNaN_eq, hx.isInfinite_eq, hy.isInfinite_eq, Bool.or_self,
      if_neg Bool.false_ne_true, if_neg Bool.false_ne_true, if_neg Bool.false_ne_true]
  have hsum : x.steps + y.steps = (n + m) * stepsOfOne := by
    rw [hx.steps_eq, hy.steps_eq, add_mul]
  rw [hadd, addFinite, hsum]
  by_cases hzero : (n + m) * (stepsOfOne : ℤ) = 0
  · have hne : (stepsOfOne : ℤ) ≠ 0 := by exact_mod_cast stepsOfOne_pos.ne'
    have hnm : n + m = 0 := (mul_eq_zero.mp hzero).resolve_right hne
    rw [hnm] at hk
    rw [if_pos hzero, hk.unique (is_ofInt (n := 0) (Nat.zero_le _))]
    exact ofFields_zero _
  · rw [if_neg hzero]
    exact hk

/-- The sum of two integers is rounded to an integer. -/
lemma exists_add (hx : x.Is n) (hy : y.Is m) {a b : ℕ} (ha : n.natAbs ≤ a) (hb : m.natAbs ≤ b)
    (h : a + b < 2 ^ 127) : ∃ k : ℤ, (x.add y).Is k ∧ k.natAbs ≤ 2 * (a + b) := by
  have hle : (n + m).natAbs ≤ a + b := (Int.natAbs_add_le n m).trans (Nat.add_le_add ha hb)
  obtain ⟨k, hk, hkle⟩ := exists_is_ofInt_of_le hle h
  exact ⟨k, hx.add_of_ofInt hy hk, hkle⟩

/-- Up to `2 ^ 24` a sum of integers is exact. -/
lemma add (hx : x.Is n) (hy : y.Is m) (h : (n + m).natAbs ≤ 2 ^ 24) : (x.add y).Is (n + m) :=
  hx.add_of_ofInt hy (is_ofInt h)

/-- The difference of two integers is rounded to an integer. -/
lemma exists_sub (hx : x.Is n) (hy : y.Is m) {a b : ℕ} (ha : n.natAbs ≤ a) (hb : m.natAbs ≤ b)
    (h : a + b < 2 ^ 127) : ∃ k : ℤ, (x.sub y).Is k ∧ k.natAbs ≤ 2 * (a + b) :=
  hx.exists_add hy.neg ha (by rw [Int.natAbs_neg]; exact hb) h

/-- Up to `2 ^ 24` a difference of integers is exact. -/
lemma sub (hx : x.Is n) (hy : y.Is m) (h : (n - m).natAbs ≤ 2 ^ 24) : (x.sub y).Is (n - m) := by
  rw [sub_eq_add_neg] at h ⊢
  exact hx.add hy.neg h

lemma lt_iff (hx : x.Is n) (hy : y.Is m) : x.lt y = true ↔ n < m := by
  have hpos : (0 : ℤ) < stepsOfOne := by exact_mod_cast stepsOfOne_pos
  rw [Single.lt, hx.isNaN_eq, hy.isNaN_eq]
  simp only [Bool.not_false, Bool.true_and, decide_eq_true_eq]
  rw [rank_lt_iff, hx.steps_eq, hy.steps_eq, mul_lt_mul_iff_left₀ hpos]

lemma eq_iff (hx : x.Is n) (hy : y.Is m) : x.eq y = true ↔ n = m := by
  have hpos : (0 : ℤ) < stepsOfOne := by exact_mod_cast stepsOfOne_pos
  have hxy := rank_lt_iff x y
  have hyx := rank_lt_iff y x
  rw [hx.steps_eq, hy.steps_eq, mul_lt_mul_iff_left₀ hpos] at hxy hyx
  rw [Single.eq, hx.isNaN_eq, hy.isNaN_eq]
  simp only [Bool.not_false, Bool.true_and, beq_iff_eq]
  omega

lemma max (hx : x.Is n) (hy : y.Is m) : (x.max y).Is (Max.max n m) := by
  have hlt := hx.lt_iff hy
  have heq := hx.eq_iff hy
  rw [Single.max, hx.isNaN_eq]
  by_cases hnm : n < m
  · rw [if_neg Bool.false_ne_true, hlt.mpr hnm, Bool.true_or, if_pos rfl, max_eq_right hnm.le]
    exact hy
  · rw [if_neg Bool.false_ne_true, max_eq_left (not_lt.mp hnm)]
    split
    · rename_i hthen
      rw [Bool.or_eq_true, Bool.and_eq_true, hlt, heq] at hthen
      obtain rfl : n = m := (hthen.resolve_left hnm).1
      exact hy
    · exact hx

lemma min (hx : x.Is n) (hy : y.Is m) : (x.min y).Is (Min.min n m) := by
  have hlt := hy.lt_iff hx
  have heq := hx.eq_iff hy
  rw [Single.min, hx.isNaN_eq]
  by_cases hnm : m < n
  · rw [if_neg Bool.false_ne_true, hlt.mpr hnm, Bool.true_or, if_pos rfl, min_eq_right hnm.le]
    exact hy
  · rw [if_neg Bool.false_ne_true, min_eq_left (not_lt.mp hnm)]
    split
    · rename_i hthen
      rw [Bool.or_eq_true, Bool.and_eq_true, hlt, heq] at hthen
      obtain rfl : n = m := (hthen.resolve_left hnm).1
      exact hy
    · exact hx

/-- A word is converted exactly. -/
lemma toWord_eq {n : ℕ} (h : x.Is n) (hword : n < 2 ^ 32) : x.toWord = n := by
  have hpos := stepsOfOne_pos
  have hsteps := h.steps_eq
  rw [steps] at hsteps
  rw [toWord, h.isNaN_eq, h.isInfinite_eq, Bool.false_or]
  cases hnegative : x.negative with
  | true =>
    rw [hnegative, if_pos rfl] at hsteps
    have hzero : n * stepsOfOne = 0 := by
      have hcast : -(x.absSteps : ℤ) = ((n * stepsOfOne : ℕ) : ℤ) := by
        rw [hsteps, Nat.cast_mul]
      omega
    rw [if_pos rfl]
    exact ((Nat.mul_eq_zero.mp hzero).resolve_right hpos.ne').symm
  | false =>
    rw [hnegative, if_neg Bool.false_ne_true] at hsteps
    have habs : x.absSteps = n * stepsOfOne := by exact_mod_cast hsteps
    rw [if_neg Bool.false_ne_true, if_neg Bool.false_ne_true, habs, Nat.mul_div_cancel _ hpos]
    exact Nat.min_eq_left (by omega)

end Is

end RenderBridge.Single
