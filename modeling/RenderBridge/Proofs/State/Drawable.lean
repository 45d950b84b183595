import Mathlib.Tactic
import RenderBridge.Draw.Resolve
import RenderBridge.State.Tracker
/-!
Every render state that settings can make can be drawn with.

* `Single.le_clamp`, `Single.clamp_le`: a clamped number lies in the range.
* `Snapshot.Drawable`: viewport and scissor have areas, and the depth range is inside `[0, 1]`.
* `Tracker.apply_drawable`: **settings keep a state drawable**, also with widths below one, with
  infinite depths and with what is no number.
* `Snapshot.Drawable.check_eq`: a drawable state passes the checks of a draw.
-/

set_option autoImplicit false

namespace RenderBridge

/-! ### Depths -/

namespace Single

variable {x y low high : Single}

lemma le_iff : le x y = true ↔ x.isNaN = false ∧ y.isNaN = false ∧ x.rank ≤ y.rank := by
  simp [le, and_assoc]

lemma lt_iff : lt x y = true ↔ x.isNaN = false ∧ y.isNaN = false ∧ x.rank < y.rank := by
  simp [lt, and_assoc]

/-- Of two numbers, the first is at most the second where the second is not below it. -/
lemma le_of_not_lt (hx : x.isNaN = false) (hy : y.isNaN = false) (h : ¬ lt y x = true) :
    le x y = true := by
  rw [lt_iff] at h
  rw [le_iff]
  refine ⟨hx, hy, ?_⟩
  by_contra hlt
  exact h ⟨hy, hx, not_le.mp hlt⟩

/-- A number brought into a range is at least its lower end. -/
lemma le_clamp (hx : x.isNaN = false) (h : le low high = true) :
    le low (x.clamp low high) = true := by
  obtain ⟨hlow, hhigh, hle⟩ := le_iff.mp h
  rw [clamp]
  split
  · exact le_iff.mpr ⟨hlow, hlow, le_rfl⟩
  · rename_i hnot
    split
    · exact h
    · exact le_of_not_lt hlow hx hnot

/-- A number brought into a range is at most its upper end. -/
lemma clamp_le (hx : x.isNaN = false) (h : le low high = true) :
    le (x.clamp low high) high = true := by
  obtain ⟨hlow, hhigh, hle⟩ := le_iff.mp h
  rw [clamp]
  split
  · exact h
  · split
    · exact le_iff.mpr ⟨hhigh, hhigh, le_rfl⟩
    · rename_i hnot
      exact le_of_not_lt hx hhigh hnot

end Single

/-! ### States -/

/-- The viewport has an area, and its depth range is one inside `[0, 1]`. -/
structure ViewportState.Drawable (v : ViewportState) : Prop where
  width : 1 ≤ v.width
  height : 1 ≤ v.height
  minDepth : v.minDepth.isNaN = false
  maxDepth : v.maxDepth.isNaN = false
  zero_le : Single.le .zero v.minDepth = true
  ordered : Single.le v.minDepth v.maxDepth = true
  le_one : Single.le v.maxDepth .one = true

/-- The scissor rectangle has an area, whether the test is enabled or not. -/
structure ScissorState.Drawable (r : ScissorState) : Prop where
  width : 1 ≤ r.width
  height : 1 ≤ r.height

/-- Viewport and scissor can be drawn with. -/
structure Snapshot.Drawable (s : Snapshot) : Prop where
  viewport : s.viewport.Drawable
  scissor : s.scissor.Drawable

/-- A depth range that is taken lies in `[0, 1]` and is not reversed. -/
lemma Setting.depthRange_ok {minDepth maxDepth low high : Single}
    (h : depthRange minDepth maxDepth = .ok (low, high)) :
    Single.le .zero low = true ∧ Single.le low high = true ∧ Single.le high .one = true := by
  have hunit : Single.le .zero .one = true := by decide
  rw [depthRange] at h
  split at h
  · cases h
  · rename_i hnumbers
    simp only [Bool.or_eq_true, not_or, Bool.not_eq_true] at hnumbers
    dsimp only at h
    split at h
    · cases h
    · rename_i hordered
      cases h
      have hlow := Single.le_clamp hnumbers.1 hunit
      have hhigh := Single.clamp_le hnumbers.2 hunit
      exact ⟨hlow, Single.le_of_not_lt (Single.le_iff.mp hlow).2.1 (Single.le_iff.mp hhigh).1
        hordered, hhigh⟩

/-- A setting that is not refused keeps the state drawable. -/
lemma Setting.edit_drawable (setting : Setting) {s s' : Snapshot} (h : s.Drawable)
    (hedit : setting.edit s = .ok s') : s'.Drawable := by
  cases setting with
  | scissor enabled x y width height =>
    cases hedit
    exact ⟨h.viewport, le_max_right _ _, le_max_right _ _⟩
  | viewport x y width height minDepth maxDepth =>
    rw [edit] at hedit
    split at hedit
    · rename_i low high hrange
      cases hedit
      obtain ⟨hzero, hordered, hone⟩ := depthRange_ok hrange
      obtain ⟨hlow, hhigh, -⟩ := Single.le_iff.mp hordered
      exact ⟨⟨le_max_right _ _, le_max_right _ _, hlow, hhigh, hzero, hordered, hone⟩, h.scissor⟩
    · cases hedit
  | _ =>
    cases hedit
    exact ⟨h.viewport, h.scissor⟩

/-- The state at the start can be drawn with. -/
lemma Snapshot.drawable_initial : Snapshot.Drawable {} where
  viewport := by constructor <;> decide
  scissor := by constructor <;> decide

/-- Every setting keeps the state drawable. -/
theorem Tracker.apply_drawable (t : Tracker) (setting : Setting) (h : t.snapshot.Drawable) :
    (t.apply setting).2.snapshot.Drawable := by
  rw [apply]
  split
  · rename_i candidate hedit
    dsimp only
    rw [update]
    split
    · exact h
    · exact setting.edit_drawable h hedit
  · exact h

/-- A drawable state passes the checks of a draw. -/
lemma Snapshot.Drawable.check_eq {s : Snapshot} (h : s.Drawable) : s.check = .ok () := by
  have hviewport : ¬ (s.viewport.width ≤ 0 ∨ s.viewport.height ≤ 0) := by
    have hwidth := h.viewport.width
    have hheight := h.viewport.height
    omega
  have hdepths : ¬ s.viewport.maxDepth.lt s.viewport.minDepth = true := by
    rw [Single.lt_iff]
    rintro ⟨-, -, hlt⟩
    exact absurd (Single.le_iff.mp h.viewport.ordered).2.2 (not_le.mpr hlt)
  have hscissor : ¬ (s.scissor.enabled ∧ (s.scissor.width ≤ 0 ∨ s.scissor.height ≤ 0)) := by
    have hwidth := h.scissor.width
    have hheight := h.scissor.height
    omega
  rw [check, if_neg hviewport, if_neg hdepths, if_neg hscissor]

end RenderBridge
