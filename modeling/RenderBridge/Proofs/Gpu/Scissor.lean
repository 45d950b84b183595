import RenderBridge.Gpu.Device
import RenderBridge.Proofs.Number.Single
/-!
The scissor rectangle that a graphics machine is told, against the rectangle that a host set.

* `Rect.Clip`: the edges of a rectangle on the target, and what cutting to them gives.
* `Rect.exists_clip`: every rectangle of 32-bit numbers is cut to whole edges on the target; up to
  `2 ^ 22` they are the exact ones.
* `scissor_on_target`: **the machine is told whole numbers inside the target**, and in range they
  are the pixels that the rectangle has in common with it.
-/

set_option autoImplicit false

namespace RenderBridge

namespace Rect

/-! ### Edges -/

/-- A rectangle is cut to edges on a target: it is what lies between them, and nothing where they do
not leave an area. -/
structure Clip (clipped : Option Rect) (targetWidth targetHeight : ℕ)
    (left right top bottom : ℤ) : Prop where
  left_nonneg : 0 ≤ left
  right_le : right ≤ targetWidth
  top_nonneg : 0 ≤ top
  bottom_le : bottom ≤ targetHeight
  empty : ¬ (left < right ∧ top < bottom) → clipped = none
  area : left < right ∧ top < bottom → ∃ r, clipped = some r ∧ r.x.Is left ∧ r.y.Is top ∧
    r.width.Is (right - left) ∧ r.height.Is (bottom - top)

/-- Whole edges inside a target have a distance that is exact. -/
lemma is_sub_of_le {x y : Single} {n m : ℤ} {bound : ℕ} (hx : x.Is n) (hy : y.Is m)
    (hm : 0 ≤ m) (hlt : m < n) (hn : n ≤ bound) (hbound : bound ≤ 2 ^ 24) :
    (x.sub y).Is (n - m) := hx.sub hy (by omega)

/-- Where the corners of a rectangle are integers, it is cut to those on the target. -/
lemma clip_of_is {r : Rect} {targetWidth targetHeight : ℕ} {left right top bottom : ℤ}
    (htargetWidth : targetWidth ≤ 2 ^ 24) (htargetHeight : targetHeight ≤ 2 ^ 24)
    (hleft : r.x.Is left) (hright : (r.x.add r.width).Is right)
    (htop : ((Single.ofInt targetHeight).sub (r.y.add r.height)).Is top)
    (hbottom : (((Single.ofInt targetHeight).sub (r.y.add r.height)).add r.height).Is bottom) :
    Clip (r.flipAndClip targetWidth targetHeight) targetWidth targetHeight
      (max left 0) (min right targetWidth) (max top 0) (min bottom targetHeight) := by
  have htw : (Single.ofInt targetWidth).Is targetWidth := Single.is_ofInt htargetWidth
  have hth : (Single.ofInt targetHeight).Is targetHeight := Single.is_ofInt htargetHeight
  have hx0 := hleft.max .zero
  have hy0 := htop.max .zero
  have hx1 := hright.min htw
  have hy1 := hbottom.min hth
  have hkept : (((r.x.max .zero).lt ((r.x.add r.width).min (.ofInt targetWidth)) &&
      (((Single.ofInt targetHeight).sub (r.y.add r.height)).max .zero).lt
        ((((Single.ofInt targetHeight).sub (r.y.add r.height)).add r.height).min
          (.ofInt targetHeight))) = true) ↔
      max left 0 < min right targetWidth ∧ max top 0 < min bottom targetHeight := by
    rw [Bool.and_eq_true, hx0.lt_iff hx1, hy0.lt_iff hy1]
  refine ⟨le_max_right _ _, min_le_right _ _, le_max_right _ _, min_le_right _ _, fun hnone => ?_,
    fun harea => ?_⟩
  · exact if_neg (mt hkept.mp hnone)
  · refine ⟨_, if_pos (hkept.mpr harea), hx0, hy0, ?_, ?_⟩
    · exact is_sub_of_le hx1 hx0 (le_max_right _ _) harea.1 (min_le_right _ _) htargetWidth
    · exact is_sub_of_le hy1 hy0 (le_max_right _ _) harea.2 (min_le_right _ _) htargetHeight

variable {x y : ℤ} {width height targetWidth targetHeight : ℕ}

/-- Every rectangle of 32-bit numbers is cut to whole edges on the target. The sums are rounded, and
stay far below the largest single. -/
lemma exists_clip (hx : x.natAbs ≤ 2 ^ 31) (hy : y.natAbs ≤ 2 ^ 31) (hwidth : width ≤ 2 ^ 31)
    (hheight : height ≤ 2 ^ 31) (htargetWidth : targetWidth ≤ 2 ^ 24)
    (htargetHeight : targetHeight ≤ 2 ^ 24) :
    ∃ left right top bottom : ℤ,
      Clip (flipAndClip ⟨.ofInt x, .ofInt y, .ofInt width, .ofInt height⟩ targetWidth targetHeight)
        targetWidth targetHeight left right top bottom := by
  obtain ⟨x', hx', hxle⟩ := Single.exists_is_ofInt_of_le hx (by norm_num)
  obtain ⟨y', hy', hyle⟩ := Single.exists_is_ofInt_of_le hy (by norm_num)
  obtain ⟨w, hw, hwle⟩ := Single.exists_is_ofInt_of_le (n := width) hwidth (by norm_num)
  obtain ⟨h, hh, hhle⟩ := Single.exists_is_ofInt_of_le (n := height) hheight (by norm_num)
  have hth : (Single.ofInt targetHeight).Is targetHeight := Single.is_ofInt htargetHeight
  obtain ⟨right, hright, -⟩ := hx'.exists_add hw hxle hwle (by norm_num)
  obtain ⟨sum, hsum, hsumle⟩ := hy'.exists_add hh hyle hhle (by norm_num)
  obtain ⟨top, htop, htople⟩ := hth.exists_sub hsum (a := 2 ^ 24) htargetHeight hsumle
    (by norm_num)
  obtain ⟨bottom, hbottom, -⟩ := htop.exists_add hh htople hhle (by norm_num)
  exact ⟨_, _, _, _, clip_of_is htargetWidth htargetHeight hx' hright htop hbottom⟩

/-- Where the numbers are at most `2 ^ 22` all sums are exact, and the edges are those of the
rectangle turned over. -/
lemma clip_exact (hx : x.natAbs ≤ 2 ^ 22) (hy : y.natAbs ≤ 2 ^ 22) (hwidth : width ≤ 2 ^ 22)
    (hheight : height ≤ 2 ^ 22) (htargetWidth : targetWidth ≤ 2 ^ 22)
    (htargetHeight : targetHeight ≤ 2 ^ 22) :
    Clip (flipAndClip ⟨.ofInt x, .ofInt y, .ofInt width, .ofInt height⟩ targetWidth targetHeight)
      targetWidth targetHeight (max x 0) (min (x + width) targetWidth)
      (max (targetHeight - (y + height)) 0) (min (targetHeight - y) targetHeight) := by
  have hx' : (Single.ofInt x).Is x := Single.is_ofInt (by omega)
  have hy' : (Single.ofInt y).Is y := Single.is_ofInt (by omega)
  have hw : (Single.ofInt width).Is width := Single.is_ofInt (by omega)
  have hh : (Single.ofInt height).Is height := Single.is_ofInt (by omega)
  have hth : (Single.ofInt targetHeight).Is targetHeight := Single.is_ofInt (by omega)
  have htop := hth.sub (hy'.add hh (by omega)) (by omega)
  have hbottom := htop.add hh (by omega)
  have hclip := clip_of_is (r := ⟨.ofInt x, .ofInt y, .ofInt width, .ofInt height⟩)
    (htargetWidth.trans (by norm_num)) (htargetHeight.trans (by norm_num)) hx'
    (hx'.add hw (by omega)) htop hbottom
  rw [show (targetHeight : ℤ) - (y + height) + height = targetHeight - y by ring] at hclip
  exact hclip

end Rect

/-! ### Scissors -/

/-- The pixels of a rectangle with this corner and size. -/
def pixels (x y : ℤ) (width height : ℕ) : Set (ℤ × ℤ) :=
  Set.Ico x (x + width) ×ˢ Set.Ico y (y + height)

/-- What is left of a rectangle on a target, as whole numbers, and that the machine is told so. -/
structure Rect.Placed (clipped : Option Rect) (events : Option (List GpuEvent))
    (sx sy sw sh : ℕ) : Prop where
  clipped_eq : ∃ r, clipped = some r ∧ r.x.Is sx ∧ r.y.Is sy ∧ r.width.Is sw ∧ r.height.Is sh
  events_eq : events = some [.setScissor sx sy sw sh]

/-- A rectangle with whole edges on a target goes to the machine as it is, or not at all where
nothing is left of it. -/
lemma Rect.Clip.placed {x y : ℤ} {width height : ℕ} {targets : FrameTargets}
    {left right top bottom : ℤ}
    (h : Clip (flipAndClip ⟨.ofInt x, .ofInt y, .ofInt width, .ofInt height⟩ targets.width
      targets.height) targets.width targets.height left right top bottom)
    (htargetWidth : targets.width ≤ 2 ^ 24) (htargetHeight : targets.height ≤ 2 ^ 24) :
    (¬ (left < right ∧ top < bottom) ∧
        flipAndClip ⟨.ofInt x, .ofInt y, .ofInt width, .ofInt height⟩ targets.width
          targets.height = none ∧
        GpuDevice.scissorEvents (some ⟨x, y, width, height⟩) targets = none) ∨
      ((left < right ∧ top < bottom) ∧ ∃ sx sy sw sh : ℕ, left = sx ∧ top = sy ∧
        right - left = sw ∧ bottom - top = sh ∧
        Placed (flipAndClip ⟨.ofInt x, .ofInt y, .ofInt width, .ofInt height⟩ targets.width
          targets.height) (GpuDevice.scissorEvents (some ⟨x, y, width, height⟩) targets)
          sx sy sw sh) := by
  have htold : GpuDevice.scissorEvents (some ⟨x, y, width, height⟩) targets =
      (flipAndClip ⟨.ofInt x, .ofInt y, .ofInt width, .ofInt height⟩ targets.width
        targets.height).map fun r =>
          [.setScissor r.x.toWord r.y.toWord r.width.toWord r.height.toWord] := rfl
  by_cases harea : left < right ∧ top < bottom
  · obtain ⟨r, hclipped, hx, hy, hw, hh⟩ := h.area harea
    have hleft := h.left_nonneg
    have hright := h.right_le
    have htop := h.top_nonneg
    have hbottom := h.bottom_le
    obtain ⟨sx, rfl⟩ := Int.eq_ofNat_of_zero_le hleft
    obtain ⟨sy, rfl⟩ := Int.eq_ofNat_of_zero_le htop
    obtain ⟨sw, hsw⟩ := Int.eq_ofNat_of_zero_le (sub_nonneg.mpr harea.1.le)
    obtain ⟨sh, hsh⟩ := Int.eq_ofNat_of_zero_le (sub_nonneg.mpr harea.2.le)
    rw [hsw] at hw
    rw [hsh] at hh
    refine .inr ⟨harea, sx, sy, sw, sh, rfl, rfl, hsw, hsh, ⟨r, hclipped, hx, hy, hw, hh⟩, ?_⟩
    rw [htold, hclipped, Option.map_some, hx.toWord_eq (by omega), hy.toWord_eq (by omega),
      hw.toWord_eq (by omega), hh.toWord_eq (by omega)]
  · have hclipped := h.empty harea
    rw [htold, hclipped]
    exact .inl ⟨harea, rfl, rfl⟩

/-- The pixels of a rectangle and a target in common lie between the inner edges. -/
lemma pixels_inter (x y : ℤ) (width height targetWidth targetHeight : ℕ) :
    pixels x y width height ∩ pixels 0 0 targetWidth targetHeight =
      Set.Ico (max x 0) (min (x + width) targetWidth) ×ˢ
        Set.Ico (max y 0) (min (y + height) targetHeight) := by
  rw [pixels, pixels, Set.prod_inter_prod, Set.Ico_inter_Ico, Set.Ico_inter_Ico, zero_add, zero_add]

/-- **A scissor stays on its target, and is exact in range.** Take any rectangle of 32-bit numbers
and a target of up to `2 ^ 24` pixels each way, with all arithmetic in single precision. Nothing is
left of the rectangle, and the machine is told nothing; or four whole numbers are left, with a width
and a height above zero and inside the target, and the machine is told them as they are. Where no
number is above `2 ^ 22`, what is left are the very pixels that the rectangle, turned over, has in
common with the target, and nothing is left only where there are none. -/
theorem scissor_on_target (x y : ℤ) (width height : ℕ) (targets : FrameTargets)
    (hx : -2 ^ 31 ≤ x ∧ x < 2 ^ 31) (hy : -2 ^ 31 ≤ y ∧ y < 2 ^ 31) (hwidth : width < 2 ^ 31)
    (hheight : height < 2 ^ 31) (htargetWidth : targets.width ≤ 2 ^ 24)
    (htargetHeight : targets.height ≤ 2 ^ 24) :
    let clipped := Rect.flipAndClip ⟨.ofInt x, .ofInt y, .ofInt width, .ofInt height⟩
      targets.width targets.height
    let events := GpuDevice.scissorEvents (some ⟨x, y, width, height⟩) targets
    ((clipped = none ∧ events = none) ∨
      ∃ sx sy sw sh : ℕ, Rect.Placed clipped events sx sy sw sh ∧ 0 < sw ∧ 0 < sh ∧
        sx + sw ≤ targets.width ∧ sy + sh ≤ targets.height) ∧
    (|x| ≤ 2 ^ 22 → |y| ≤ 2 ^ 22 → width ≤ 2 ^ 22 → height ≤ 2 ^ 22 → targets.width ≤ 2 ^ 22 →
      targets.height ≤ 2 ^ 22 →
      let common := pixels x (targets.height - (y + height)) width height ∩
        pixels 0 0 targets.width targets.height
      (clipped = none ↔ common = ∅) ∧
        ∀ sx sy sw sh, Rect.Placed clipped events sx sy sw sh → pixels sx sy sw sh = common) := by
  intro clipped events
  refine ⟨?_, fun hx hy hwidth hheight hnearWidth hnearHeight => ?_⟩
  · obtain ⟨left, right, top, bottom, hclip⟩ := Rect.exists_clip (x := x) (y := y) (by omega)
      (by omega) hwidth.le hheight.le htargetWidth htargetHeight
    rcases hclip.placed htargetWidth htargetHeight with
      ⟨-, hclipped, hevents⟩ | ⟨harea, sx, sy, sw, sh, hsx, hsy, hsw, hsh, hplaced⟩
    · exact .inl ⟨hclipped, hevents⟩
    · have hright := hclip.right_le
      have hbottom := hclip.bottom_le
      exact .inr ⟨sx, sy, sw, sh, hplaced, by omega, by omega, by omega, by omega⟩
  · rw [abs_le] at hx hy
    intro common
    have hclip := Rect.clip_exact (x := x) (y := y) (by omega) (by omega) hwidth hheight hnearWidth
      hnearHeight
    have hcommon : common = Set.Ico (max x 0) (min (x + width) targets.width) ×ˢ
        Set.Ico (max (targets.height - (y + height)) 0)
          (min (targets.height - y) targets.height) := by
      have hbottom : (targets.height : ℤ) - (y + height) + height = targets.height - y := by ring
      rw [← hbottom]
      exact pixels_inter _ _ _ _ _ _
    have hempty : common = ∅ ↔ ¬ (max x 0 < min (x + width) (targets.width : ℤ) ∧
        max (targets.height - (y + height)) 0 < min (targets.height - y) (targets.height : ℤ)) := by
      rw [hcommon, Set.prod_eq_empty_iff, Set.Ico_eq_empty_iff, Set.Ico_eq_empty_iff, not_and_or]
    rcases hclip.placed htargetWidth htargetHeight with
      ⟨hnone, hclipped, hevents⟩ | ⟨harea, sx, sy, sw, sh, hsx, hsy, hsw, hsh, hplaced⟩
    · refine ⟨⟨fun _ => hempty.mpr hnone, fun _ => hclipped⟩, fun sx sy sw sh hplaced => ?_⟩
      cases hevents.symm.trans hplaced.events_eq
    · obtain ⟨r, hclipped, -⟩ := hplaced.clipped_eq
      refine ⟨⟨fun hnone => ?_, fun hnone => absurd harea (hempty.mp hnone)⟩,
        fun sx' sy' sw' sh' hplaced' => ?_⟩
      · cases hnone.symm.trans hclipped
      · cases hplaced.events_eq.symm.trans hplaced'.events_eq
        rw [hcommon, hsx, hsy, pixels]
        congr 2
        · omega
        · omega

/-- Square targets of this size, not multisampled. -/
def squareTargets (size : ℕ) : FrameTargets := ⟨size, size, .texture 0, none⟩

/-- The end of a rectangle is rounded down, and its cut is one row longer than the exact one; it is
on the target all the same. In range the cut is exact. -/
theorem scissor_on_target_rounded :
    let clipped := Rect.flipAndClip ⟨.ofInt 0xfffffd, .ofInt 5, .ofInt 0x7fffffff, .ofInt 0x1000001⟩
      0x1000000 0x1000000
    let events := GpuDevice.scissorEvents (some ⟨0xfffffd, 5, 0x7fffffff, 0x1000001⟩)
      (squareTargets 0x1000000)
    events = some [.setScissor 0xfffffd 0 3 0xfffffc] ∧
    (∃ sx sy sw sh : ℕ, Rect.Placed clipped events sx sy sw sh ∧ 0 < sw ∧ 0 < sh ∧
      sx + sw ≤ 0x1000000 ∧ sy + sh ≤ 0x1000000) ∧
    GpuDevice.scissorEvents (some ⟨-50, 0, 60, 100⟩) (squareTargets 100) =
      some [.setScissor 0 0 10 100] ∧
    pixels 0 0 10 100 = pixels (-50) (100 - (0 + 100)) 60 100 ∩ pixels 0 0 100 100 := by
  intro clipped events
  have hevents : events = some [.setScissor 0xfffffd 0 3 0xfffffc] := by decide +kernel
  have hnear : GpuDevice.scissorEvents (some ⟨-50, 0, 60, 100⟩) (squareTargets 100) =
      some [.setScissor 0 0 10 100] := by decide +kernel
  obtain ⟨hplaced, -⟩ := scissor_on_target 0xfffffd 5 0x7fffffff 0x1000001
    (squareTargets 0x1000000) (by decide) (by decide) (by decide) (by decide) (by decide)
    (by decide)
  obtain ⟨hplaced', hexact⟩ := scissor_on_target (-50) 0 60 100 (squareTargets 100) (by decide)
    (by decide) (by decide) (by decide) (by decide) (by decide)
  refine ⟨hevents, ?_, hnear, ?_⟩
  · rcases hplaced with ⟨-, hnone⟩ | hplaced
    · cases hnone.symm.trans hevents
    · exact hplaced
  · rcases hplaced' with ⟨-, hnone⟩ | ⟨sx, sy, sw, sh, hplaced', -⟩
    · cases hnone.symm.trans hnear
    · cases hplaced'.events_eq.symm.trans hnear
      exact (hexact (by decide) (by decide) (by decide) (by decide) (by decide) (by decide)).2
        _ _ _ _ hplaced'

end RenderBridge
