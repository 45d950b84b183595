import Mathlib.Tactic
import RenderBridge.Proofs.Draw.Cache
import RenderBridge.Vertex.Registry
/-!
Registered layouts stay as they are under their handles.

* `LayoutRegistry.native`, `Extends`: the layout under a handle, and registries that keep it.
* `LayoutRegistry.Issued`, `Issued.register`: handles are issued in order, so that a new
  layout **never takes the place of another**.
-/

set_option autoImplicit false

namespace RenderBridge

/-- The handle with a number has that number. -/
lemma LayoutHandle.toNat_raw_of_nth? {n : ℕ} {handle : LayoutHandle}
    (h : LayoutHandle.nth? n = some handle) : handle.raw.toNat = n := by
  rw [nth?] at h
  split at h
  · rename_i hlt
    rw [ofRaw?] at h
    split at h
    · cases h
      exact UInt64.toNat_ofNat_of_lt hlt
    · cases h
  · cases h

namespace LayoutRegistry

variable {r r' : LayoutRegistry}

/-- The device's form of the layout under a handle. -/
def native (r : LayoutRegistry) (handle : Option LayoutHandle) : Option VertexLayout :=
  handle.bind fun handle => (r.records.get? handle).map (·.native)

/-- A later registry still has what was there. -/
def Extends (r r' : LayoutRegistry) : Prop :=
  ∀ handle record, r.records.get? handle = some record → r'.records.get? handle = some record

lemma Extends.refl (r : LayoutRegistry) : r.Extends r := fun _ _ h => h

/-- A handle that is registered keeps its layout. -/
lemma Extends.native_eq (h : r.Extends r') {handle : Option LayoutHandle}
    (hregistered : ∀ handle', handle = some handle' → (r.records.get? handle').isSome) :
    r'.native handle = r.native handle := by
  cases handle with
  | none => rfl
  | some handle =>
    obtain ⟨record, hrecord⟩ := Option.isSome_iff_exists.mp (hregistered handle rfl)
    rw [native, native, Option.bind_some, Option.bind_some, hrecord, h handle record hrecord]

/-- Only the numbers before the next one are issued, and the device takes every layout as it is. -/
structure Issued (r : LayoutRegistry) : Prop where
  number_lt : ∀ handle record, r.records.get? handle = some record →
    handle.raw.toNat < r.nextNumber
  native_eq : ∀ handle record, r.records.get? handle = some record →
    record.native = record.layout

namespace Issued

lemma empty : Issued {} where
  number_lt handle record h := by cases h
  native_eq handle record h := by cases h

/-- Taking a layout in leaves the others. -/
lemma issue (h : r.Issued) {record : LayoutRecord} (hnative : record.native = record.layout) :
    r.Extends (r.issue record).2 ∧ (r.issue record).2.Issued := by
  rw [LayoutRegistry.issue]
  split
  · rename_i handle hhandle
    have hnumber := LayoutHandle.toNat_raw_of_nth? hhandle
    have hfree : r.records.get? handle = none := by
      rw [Option.eq_none_iff_forall_ne_some]
      intro record' hrecord
      have hlt := h.number_lt handle record' hrecord
      omega
    refine ⟨fun handle' record' hrecord => Table.get?_insert_of_free hfree hrecord, ?_, ?_⟩
    · intro handle' record' hrecord
      rw [Table.get?_insert] at hrecord
      split at hrecord
      · rename_i hsame
        rw [hsame, hnumber]
        exact Nat.lt_succ_self _
      · exact (h.number_lt handle' record' hrecord).trans (Nat.lt_succ_self _)
    · intro handle' record' hrecord
      rw [Table.get?_insert] at hrecord
      split at hrecord
      · cases hrecord
        exact hnative
      · exact h.native_eq handle' record' hrecord
  · exact ⟨.refl r, h⟩

variable {δ P D : Type} [Device δ P D]

/-- Registering a layout leaves the others, on a device that takes layouts as they are. -/
lemma register (h : r.Issued) (stride count : ℤ) (packed : Bytes) {d : δ}
    (hdevice : ∀ layout native d',
      Device.createLayout (P := P) (D := D) layout d = (.ok native, d') → native = layout) :
    r.Extends (r.register (P := P) (D := D) stride count packed d).2.1 ∧
      (r.register (P := P) (D := D) stride count packed d).2.1.Issued := by
  rw [LayoutRegistry.register]
  split
  · exact ⟨.refl r, h⟩
  · rename_i layout hparse
    split
    · exact ⟨.refl r, h⟩
    · rename_i native d' hcall
      exact h.issue (hdevice layout native d' hcall)

end Issued

end LayoutRegistry

end RenderBridge
