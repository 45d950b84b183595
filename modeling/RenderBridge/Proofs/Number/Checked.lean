import RenderBridge.Proofs.Number.Word
/-!
Steps of 64-bit arithmetic that fail where their result is not a word, and the rounding made of
them.

* `add?`, `sub?`, `mul?`, `div?`: one step of arithmetic, or none where it overflows or divides by
  zero.
* `alignUp?`, `alignUp?_eq`: rounding up to a multiple of a positive number goes through.
* `alignUp_exact`: **what rounding up gives**.
-/

set_option autoImplicit false

namespace RenderBridge.Word

/-! ### Single steps -/

/-- The sum, where it is a word. -/
def add? (a b : ℕ) : Option ℕ := if a + b < range then some (a + b) else none

/-- The difference, where it is a word. -/
def sub? (a b : ℕ) : Option ℕ := if b ≤ a then some (a - b) else none

/-- The product, where it is a word. -/
def mul? (a b : ℕ) : Option ℕ := if a * b < range then some (a * b) else none

/-- The quotient, where the divisor is not zero. -/
def div? (a b : ℕ) : Option ℕ := if 0 < b then some (a / b) else none

/-- The remainder, where the divisor is not zero. -/
def mod? (a b : ℕ) : Option ℕ := if 0 < b then some (a % b) else none

/-- The sum, or the largest word where it is none. -/
def saturatingAdd (a b : ℕ) : ℕ := min (a + b) (range - 1)

variable {a b : ℕ}

lemma add?_eq (h : a + b < range) : add? a b = some (a + b) := if_pos h

lemma sub?_eq (h : b ≤ a) : sub? a b = some (a - b) := if_pos h

lemma mul?_eq (h : a * b < range) : mul? a b = some (a * b) := if_pos h

lemma div?_eq (h : 0 < b) : div? a b = some (a / b) := if_pos h

lemma mod?_eq (h : 0 < b) : mod? a b = some (a % b) := if_pos h

/-- A saturated sum compares with words as the sum itself does. -/
lemma lt_saturatingAdd {bound : ℕ} (h : bound < range - 1) :
    bound < saturatingAdd a b ↔ bound < a + b := by
  rw [saturatingAdd, lt_min_iff]
  exact and_iff_left h

/-! ### Rounding up -/

/-- Rounds up to a multiple, step by step. -/
def alignUp? (value alignment : ℕ) : Option ℕ := do
  guard (0 < alignment)
  let slack ← sub? alignment 1
  match add? value slack with
  | some sum => mul? (← div? sum alignment) alignment
  | none => mul? (← div? (range - 1) alignment) alignment

/-- No step of rounding up overflows. -/
lemma alignUp?_eq {value alignment : ℕ} (pos : 0 < alignment) :
    alignUp? value alignment = some (alignUp value alignment) := by
  have hslack : sub? alignment 1 = some (alignment - 1) := sub?_eq pos
  have hmul (n : ℕ) (hn : n < range) :
      mul? (n / alignment) alignment = some (n / alignment * alignment) :=
    mul?_eq (lt_of_le_of_lt (Nat.div_mul_le_self n alignment) hn)
  rw [alignUp?, alignUp, hslack]
  by_cases h : value + (alignment - 1) < range
  · simp [pos, h, add?_eq h, div?_eq pos, hmul _ h]
  · have hnone : add? value (alignment - 1) = none := if_neg h
    simp [pos, h, hnone, div?_eq pos, hmul (range - 1) (by decide)]

/-! ### Exactness -/

/-- **Rounding up is exact, up to saturation.** No step of it overflows, and it ends at a multiple
of the alignment. That is the least one that is not below the number, wherever that is a word, also
where the sum on the way is none; elsewhere it is the greatest word that is a multiple. So larger
numbers are rounded to larger ones, what is rounded stays as it is, and a number in the lower half
of the range is never rounded down. -/
theorem alignUp_exact {alignment : ℕ} (pos : 0 < alignment) (hword : alignment < range) :
    (∀ value, alignUp? value alignment = some (alignUp value alignment)) ∧
    (∀ value, alignment ∣ alignUp value alignment) ∧
    (∀ value, (∃ m < range, alignment ∣ m ∧ value ≤ m) →
      IsLeast {m | alignment ∣ m ∧ value ≤ m} (alignUp value alignment)) ∧
    (∀ value, (¬ ∃ m < range, alignment ∣ m ∧ value ≤ m) →
      IsGreatest {m | alignment ∣ m ∧ m < range} (alignUp value alignment)) ∧
    Monotone (alignUp · alignment) ∧
    (∀ value, alignUp (alignUp value alignment) alignment = alignUp value alignment) ∧
    ∀ value < 2 ^ 63, value ≤ alignUp value alignment :=
  ⟨fun _ => alignUp?_eq pos, fun value => dvd_alignUp value alignment,
    fun _ => isLeast_alignUp pos, fun _ => isGreatest_alignUp pos, alignUp_mono alignment,
    alignUp_alignUp pos, fun _ => le_alignUp_of_lt hword pos⟩

/-- Seven does not divide the range: `range - 2` is its last multiple there. It is reached from
`range - 5`, though the sum on the way overflows, and from `range - 1`, which is above it. -/
theorem alignUp_exact_sevens :
    0 < 7 ∧ 7 < range ∧ range ≤ (range - 5) + (7 - 1) ∧
    IsLeast {m | 7 ∣ m ∧ range - 5 ≤ m} (range - 2) ∧
    (¬ ∃ m < range, 7 ∣ m ∧ range - 1 ≤ m) ∧
    IsGreatest {m | 7 ∣ m ∧ m < range} (range - 2) := by
  have hnone : ¬ ∃ m < range, 7 ∣ m ∧ range - 1 ≤ m := by
    rintro ⟨m, hm, hdvd, hle⟩
    rw [range] at hm hle
    omega
  obtain ⟨-, -, hleast, hgreatest, -⟩ := alignUp_exact (by decide : 0 < 7) (by decide)
  exact ⟨by decide, by decide, by decide, hleast (range - 5) ⟨range - 2, by decide⟩, hnone,
    hgreatest (range - 1) hnone⟩

end RenderBridge.Word
