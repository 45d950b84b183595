/-!
Finite maps as lists of entries with distinct keys.

* `Table.get?`, `insert`, `erase`, `size`: looking up, adding or replacing, removing, counting.
* `get?_insert`, `get?_erase`: what each operation does to every look-up.
-/

set_option autoImplicit false

namespace RenderBridge

/-- A finite map, newest entries first. -/
structure Table (κ ν : Type) where
  entries : List (κ × ν) := []

namespace Table

variable {κ ν : Type} [DecidableEq κ]

/-- The empty map. -/
def empty : Table κ ν := ⟨[]⟩

/-- The value under a key. -/
def get? (t : Table κ ν) (k : κ) : Option ν := (t.entries.find? fun e => e.1 = k).map (·.2)

def contains (t : Table κ ν) (k : κ) : Bool := (t.get? k).isSome

/-- The map without a key. -/
def erase (t : Table κ ν) (k : κ) : Table κ ν := ⟨t.entries.filter fun e => e.1 ≠ k⟩

/-- The map with a value under a key, in place of any older one. -/
def insert (t : Table κ ν) (k : κ) (v : ν) : Table κ ν := ⟨(k, v) :: (t.erase k).entries⟩

/-- The number of entries. -/
def size (t : Table κ ν) : Nat := t.entries.length

/-! ### Look-ups -/

omit [DecidableEq κ] in
theorem find?_filter_ne {l : List (κ × ν)} {p q : κ × ν → Bool} (h : ∀ e, p e → q e) :
    (l.filter q).find? p = l.find? p := by
  induction l with
  | nil => rfl
  | cons e l ih =>
    by_cases hq : q e
    · simp [hq, List.find?_cons, ih]
    · have hp : p e = false := by
        cases hpe : p e with
        | false => rfl
        | true => exact absurd (h e hpe) hq
      simp [hq, hp, ih]

@[simp]
theorem get?_empty (k : κ) : (empty : Table κ ν).get? k = none := rfl

theorem get?_erase_of_ne (t : Table κ ν) {k j : κ} (h : j ≠ k) : (t.erase k).get? j = t.get? j := by
  unfold get? erase
  rw [find?_filter_ne]
  intro e he
  simp only [decide_eq_true_eq] at he ⊢
  exact he ▸ h

theorem get?_erase_self (t : Table κ ν) (k : κ) : (t.erase k).get? k = none := by
  simp [get?, erase, List.find?_filter]

theorem get?_erase (t : Table κ ν) (k j : κ) :
    (t.erase k).get? j = if j = k then none else t.get? j := by
  by_cases h : j = k
  · subst h; simp [get?_erase_self]
  · simp [h, get?_erase_of_ne t h]

theorem get?_insert (t : Table κ ν) (k j : κ) (v : ν) :
    (t.insert k v).get? j = if j = k then some v else t.get? j := by
  by_cases h : j = k
  · subst h; simp [get?, insert]
  · have hkj : ¬ k = j := fun e => h e.symm
    have : (t.insert k v).get? j = (t.erase k).get? j := by
      simp [get?, insert, hkj]
    rw [this, get?_erase_of_ne t h, if_neg h]

end Table

end RenderBridge
