import RenderBridge.Proofs.Context.Frame
import RenderBridge.Proofs.Device.Faulty
/-!
The size of the drawable, of which a context and its device have a copy each.

* `FollowsSize`: the copy of a device follows the resizes that succeed, and nothing else.
* `Context.Sized`: the size in the configuration is positive, and is the one that the device has.
* `Op.apply_sized`, `Step.run_sized`: **every operation keeps this**, a resize that fails among
  them, and so does every run.
* `FaultyDevice.followsSize`: the targets in host memory have the size of the last resize that
  succeeded.
-/

set_option autoImplicit false

namespace RenderBridge

variable {δ α P D : Type} [Device δ P D] [Adjustable δ α]

/-- The copy that a device has of the drawable's size, where `T width height d` says that it is this
one. A resize that succeeds gives it the new size. One that fails leaves it, as does all else. -/
structure FollowsSize (T : ℕ → ℕ → δ → Prop) : Prop where
  other {width height : ℕ} (request : Request P D) (hsurface : request.kind ≠ .surface)
    (htargets : request.kind ≠ .targets) {d : δ} (hd : T width height d) :
    T width height (request.perform d).2
  adjust {width height : ℕ} (change : α) {d : δ} (hd : T width height d) :
    T width height (Adjustable.adjust change d)
  resized {width height : ℕ} {geometry : SurfaceGeometry} {name : String} {d d' : δ}
    (hwidth : 0 < geometry.width) (hheight : 0 < geometry.height) (hd : T width height d)
    (h : Device.resizeTargets geometry.width geometry.height
      (Device.applyGeometry geometry name d) = (.ok (), d')) : T geometry.width geometry.height d'
  refused {width height : ℕ} {geometry : SurfaceGeometry} {name : String} {fault : DeviceFault}
    {d d' : δ} (hwidth : 0 < geometry.width) (hheight : 0 < geometry.height) (hd : T width height d)
    (h : Device.resizeTargets geometry.width geometry.height
      (Device.applyGeometry geometry name d) = (.error fault, d')) : T width height d'

/-- The size in the configuration is positive, and is the one that the device has. -/
structure Context.Sized (T : ℕ → ℕ → δ → Prop) (c : Context δ P D) : Prop where
  width_pos : 0 < c.config.width
  height_pos : 0 < c.config.height
  device : T c.config.width.toNat c.config.height.toNat c.device

variable {T : ℕ → ℕ → δ → Prop}

/-- A resize that fails changes neither the configuration nor the size that the device has. -/
lemma FollowsSize.resize_error (hT : FollowsSize T) {c : Context δ P D} {width height : ℤ}
    {scale : Single} {fullscreen : Bool} {fault : Fault}
    (h : (c.resize width height scale fullscreen).1 = .error fault) {width₀ height₀ : ℕ}
    (hd : T width₀ height₀ c.device) :
    (c.resize width height scale fullscreen).2.config = c.config ∧
      T width₀ height₀ (c.resize width height scale fullscreen).2.device := by
  rcases c.resize_cases width height scale fullscreen with ⟨fault, hcall⟩ |
      ⟨geometry, name, hwidth, hheight, hgw, hgh, ⟨fault, d, htargets, hcall⟩ | ⟨d, -, hcall⟩⟩
  · rw [hcall]
    exact ⟨rfl, hd⟩
  · rw [← hgw, ← hgh] at htargets
    rw [hcall]
    exact ⟨rfl, hT.refused (by omega) (by omega) hd htargets⟩
  · rw [hcall] at h
    cases h

/-- A resize gives both the new size, or leaves both. -/
lemma Context.Sized.resize {c : Context δ P D} (hc : c.Sized T) (hT : FollowsSize T)
    (width height : ℤ) (scale : Single) (fullscreen : Bool) :
    (c.resize width height scale fullscreen).2.Sized T := by
  rcases c.resize_cases width height scale fullscreen with ⟨fault, hcall⟩ |
      ⟨geometry, name, hwidth, hheight, hgw, hgh, hcases⟩
  · rw [hcall]
    exact hc
  · have hgw_pos : 0 < geometry.width := by omega
    have hgh_pos : 0 < geometry.height := by omega
    rw [← hgw, ← hgh] at hcases
    rcases hcases with ⟨fault, d, htargets, hcall⟩ | ⟨d, htargets, hcall⟩
    · rw [hcall]
      exact ⟨hc.width_pos, hc.height_pos, hT.refused hgw_pos hgh_pos hc.device htargets⟩
    · have hd := hT.resized hgw_pos hgh_pos hc.device htargets
      rw [hgw, hgh] at hd
      rw [hcall]
      exact ⟨hwidth, hheight, hd⟩

/-- Every operation keeps the two sizes the same. -/
theorem Op.apply_sized (op : Op) (hT : FollowsSize T) {c : Context δ P D} (hc : c.Sized T) :
    (op.apply c).2.Sized T := by
  by_cases htargets : .targets ∈ op.calls
  · cases op with
    | resize width height scale fullscreen =>
      rw [apply, replyWith_snd]
      exact hc.resize hT width height scale fullscreen
    | _ => simp [calls] at htargets
  · have hsurface : .surface ∉ op.calls := by
      cases op <;> simp_all [calls]
    have hdevice : T c.config.width.toNat c.config.height.toNat (op.apply c).2.device :=
      op.apply_keeps (fun request hkind d hd => hT.other request
        (fun heq => hsurface (heq ▸ hkind)) (fun heq => htargets (heq ▸ hkind)) hd) c hc.device
    have hconfig := (op.changes_apply c).config_eq htargets
    exact ⟨by rw [hconfig]; exact hc.width_pos, by rw [hconfig]; exact hc.height_pos,
      by rw [hconfig]; exact hdevice⟩

/-- Every run keeps the two sizes the same. -/
theorem Step.run_sized (steps : List (Step α)) (hT : FollowsSize T) {c : Context δ P D}
    (hc : c.Sized T) : (run steps c).Sized T := by
  refine run_induction (I := fun c : Context δ P D => c.Sized T) (fun step c hc => ?_) steps hc
  cases step with
  | perform op => exact op.apply_sized hT hc
  | adjust change => exact ⟨hc.width_pos, hc.height_pos, hT.adjust change hc.device⟩
  | setUi _ | setHost _ => exact ⟨hc.width_pos, hc.height_pos, hc.device⟩

/-! ### Host memory -/

namespace FaultyDevice

/-- The targets have this size. -/
def HasTargets (width height : ℕ) (d : FaultyDevice) : Prop :=
  d.memory.targetWidth = width ∧ d.memory.targetHeight = height

/-- Targets are made anew, unless a failure is armed for that. -/
lemma resizeTargets_cases (width height : ℕ) (d : FaultyDevice) :
    ∃ d', (Device.resizeTargets width height d = (.ok (), d') ∧ d'.HasTargets width height) ∨
      ∃ fault, Device.resizeTargets width height d = (.error fault, d') ∧ d'.memory = d.memory := by
  change ∃ d', (through .resizeTargets (Device.resizeTargets width height) d = _ ∧ _) ∨
    ∃ fault, through .resizeTargets (Device.resizeTargets width height) d = _ ∧ _
  rw [through]
  rcases d.trip_cases .resizeTargets with ⟨fault, d', htrip, hmemory⟩ | htrip
  · rw [htrip]
    exact ⟨d', .inr ⟨fault, rfl, hmemory⟩⟩
  · rw [htrip]
    exact ⟨_, .inl ⟨rfl, rfl, rfl⟩⟩

/-- Nothing else changes the size of the targets. -/
lemma keeps_targets {width height : ℕ} {kinds : List CallKind} (h : .targets ∉ kinds) :
    Keeps (HasTargets width height) kinds := by
  refine keeps_memory (I := fun d => d.targetWidth = width ∧ d.targetHeight = height)
    (MemoryDevice.keeps_of_changes fun kind hkind d d' hchanges hd => ?_)
  cases hchanges with
  | targets => exact absurd hkind h
  | _ => exact hd

/-- The targets have the size of the last resize that succeeded. -/
theorem followsSize : FollowsSize HasTargets where
  other {_ _} request _ htargets {d} hd :=
    keeps_targets (fun hmem => htargets (List.mem_singleton.mp hmem).symm) request
      (List.mem_singleton.mpr rfl) d hd
  adjust {width height} arming {d} hd := by
    obtain ⟨_, _, _, hmemory⟩ := d.arm_memory arming.point arming.count arming.fault
    change (d.arm arming.point arming.count arming.fault).HasTargets width height
    rw [HasTargets, hmemory]
    exact hd
  resized {width height geometry name d d'} _ _ _ h := by
    obtain ⟨d₁, ⟨hcall, hd₁⟩ | ⟨fault, hcall, -⟩⟩ := resizeTargets_cases geometry.width
      geometry.height (Device.applyGeometry geometry name d)
    · cases h.symm.trans hcall
      exact hd₁
    · cases h.symm.trans hcall
  refused {width height geometry name fault d d'} _ _ hd h := by
    obtain ⟨d₁, ⟨hcall, -⟩ | ⟨fault, hcall, hmemory⟩⟩ := resizeTargets_cases geometry.width
      geometry.height (Device.applyGeometry geometry name d)
    · cases h.symm.trans hcall
    · cases h.symm.trans hcall
      rw [HasTargets, hmemory]
      exact hd

end FaultyDevice

/-- A context that is opened in host memory has targets of its size. -/
lemma HostContext.sized_of_open {ω : Type} {factory : DeviceFactory ω FaultyDevice}
    {config : Config} {ui : UiThread} {world : ω} {c : HostContext FaultyDevice}
    (h : Context.openWith config ui factory world = .ok c) : c.Sized FaultyDevice.HasTargets := by
  obtain ⟨hwidth, hheight, d, d', -, hresize, rfl⟩ := Context.openWith_ok h
  obtain ⟨d₁, ⟨hcall, hd₁⟩ | ⟨fault, hcall, -⟩⟩ :=
    FaultyDevice.resizeTargets_cases config.width.toNat config.height.toNat d
  · cases hresize.symm.trans hcall
    exact ⟨hwidth, hheight, hd₁⟩
  · cases hresize.symm.trans hcall

end RenderBridge
