import RenderBridge.Context.Op
import RenderBridge.Proofs.Context.Simulation
import RenderBridge.Proofs.Run
/-!
Which parts of a context an operation leaves alone, read off the calls that it makes.

* `Context.resize_cases`, `openWith_ok`: what a resize does, and what opening a context gives.
* `Op.Changes`, `Op.changes_apply`: what each kind of operation may change.
* `Changes.buffers_eq`, `cache_eq`, `layouts_eq`, `serial_eq`, `config_eq`: the parts that only
  change with calls of one kind; `tracker_eq`, `bindings_eq`: the parts that change without any;
  `colorFormat_eq`, `sampleCount_eq`, `host_eq`: what no operation changes.
* `Op.tracker_apply`: only settings change the render state.
* `Step.run_target`: format and sample count are those of the opening in every run.
-/

set_option autoImplicit false

namespace RenderBridge

variable {δ P D : Type}

namespace Op

@[simp]
lemma replyWith_snd {α : Type} (reply : α → Reply) (outcome : Except Fault α × Context δ P D) :
    (replyWith reply outcome).2 = outcome.2 := by
  obtain ⟨answer, c⟩ := outcome
  cases answer <;> rfl

end Op

variable [Device δ P D]

namespace Context

variable (c : Context δ P D)

/-- What a resize does: it is refused and changes nothing, or the surface learns of the new size and
the targets are made anew. The configuration takes the size where that succeeds. -/
lemma resize_cases (width height : ℤ) (scale : Single) (fullscreen : Bool) :
    (∃ fault, c.resize width height scale fullscreen = (.error fault, c)) ∨
      ∃ geometry : SurfaceGeometry, ∃ name, 0 < width ∧ 0 < height ∧
        geometry.width = width.toNat ∧ geometry.height = height.toNat ∧
        ((∃ fault device, Device.resizeTargets width.toNat height.toNat
              (Device.applyGeometry geometry name c.device) = (.error fault, device) ∧
            c.resize width height scale fullscreen =
              (.error (.ofDevice fault), { c with device })) ∨
          ∃ device, Device.resizeTargets width.toNat height.toNat
              (Device.applyGeometry geometry name c.device) = (.ok (), device) ∧
            c.resize width height scale fullscreen =
              (.ok (), { c with device, config := { c.config with width, height } })) := by
  rw [resize]
  split
  · exact .inl ⟨_, rfl⟩
  · cases c.ui with
    | stopped => exact .inl ⟨_, rfl⟩
    | dropping => exact .inl ⟨_, rfl⟩
    | running name =>
      refine .inr ⟨⟨width.toNat, height.toNat, effectiveScale scale, fullscreen⟩, name, by omega,
        by omega, rfl, rfl, ?_⟩
      simp only [UiThread.run]
      split
      · rename_i hcall
        exact .inl ⟨_, _, hcall, rfl⟩
      · rename_i hcall
        exact .inr ⟨_, hcall, rfl⟩

/-- What a resize may change. -/
lemma resize_snd (width height : ℤ) (scale : Single) (fullscreen : Bool) :
    ∃ device w h, (c.resize width height scale fullscreen).2 =
      { c with device, config := { c.config with width := w, height := h } } := by
  rcases c.resize_cases width height scale fullscreen with ⟨fault, hcall⟩ |
      ⟨geometry, name, -, -, -, -, ⟨fault, device, -, hcall⟩ | ⟨device, -, hcall⟩⟩
  · exact ⟨c.device, c.config.width, c.config.height, by rw [hcall]⟩
  · exact ⟨device, c.config.width, c.config.height, by rw [hcall]⟩
  · exact ⟨device, width, height, by rw [hcall]⟩

lemma submitUnit_snd (encoded : Except DeviceFault Unit) :
    (c.submitUnit encoded).2 =
      { c with
        serial := (c.serial.submit c.device).2.1
        device := (c.serial.submit c.device).2.2 } := by
  rw [submitUnit]
  dsimp only
  split <;> rfl

lemma present_snd : c.present.2 = { c with device := (Device.present c.device).2 } := by
  rw [present]
  split
  · rename_i h
    rw [h]
  · rename_i h
    rw [h]

lemma createBuffer_snd (usage size : ℤ) (data : Option Bytes) :
    ∃ buffers device, (c.createBuffer usage size data).2 = { c with buffers, device } := by
  rw [createBuffer]
  split
  · exact ⟨c.buffers, c.device, rfl⟩
  · exact ⟨_, _, rfl⟩

lemma destroyBuffer_snd (buffer : BufferHandle) :
    ∃ buffers device bindings,
      (c.destroyBuffer buffer).2 = { c with buffers, device, bindings } := by
  rw [destroyBuffer]
  split
  · exact ⟨_, _, c.bindings, rfl⟩
  · exact ⟨_, _, _, rfl⟩

omit [Device δ P D] in
lemma bindVertex_snd (buffer : BufferHandle) (layout : LayoutHandle) :
    ∃ bindings, (c.bindVertex buffer layout).2 = { c with bindings } := by
  rw [bindVertex]
  split
  · exact ⟨c.bindings, rfl⟩
  · split
    · exact ⟨c.bindings, rfl⟩
    · exact ⟨_, rfl⟩

omit [Device δ P D] in
lemma bindIndex_snd (buffer : BufferHandle) :
    ∃ bindings, (c.bindIndex buffer).2 = { c with bindings } := by
  rw [bindIndex]
  split
  · exact ⟨c.bindings, rfl⟩
  · exact ⟨_, rfl⟩

/-- What a draw may change. -/
lemma drawUnit_snd (topology : Topology) (kind : DrawKind) :
    ∃ cache serial device, (c.drawUnit topology kind).2 = { c with cache, serial, device } := by
  rw [drawUnit]
  split
  · exact ⟨c.cache, c.serial, c.device, rfl⟩
  · dsimp only
    split
    · exact ⟨_, c.serial, _, rfl⟩
    · rw [submitUnit_snd]
      exact ⟨_, _, _, rfl⟩

lemma draw_snd (mode : UInt32) (first count : ℤ) :
    ∃ cache serial device, (c.draw mode first count).2 = { c with cache, serial, device } := by
  rw [draw]
  split
  · exact ⟨c.cache, c.serial, c.device, rfl⟩
  · split
    · exact ⟨c.cache, c.serial, c.device, rfl⟩
    · split
      · exact ⟨c.cache, c.serial, c.device, rfl⟩
      · exact drawUnit_snd c _ _

lemma drawIndexed_snd (mode : UInt32) (count : ℤ) (indexType : UInt32) :
    ∃ cache serial device,
      (c.drawIndexed mode count indexType).2 = { c with cache, serial, device } := by
  rw [drawIndexed]
  split
  · exact ⟨c.cache, c.serial, c.device, rfl⟩
  · split
    · exact ⟨c.cache, c.serial, c.device, rfl⟩
    · split
      · exact ⟨c.cache, c.serial, c.device, rfl⟩
      · split
        · exact ⟨c.cache, c.serial, c.device, rfl⟩
        · exact drawUnit_snd c _ _

/-- A context that is opened has a size that is not empty, and a new device with its first
targets. -/
lemma openWith_ok {ω : Type} {config : Config} {ui : UiThread} {factory : DeviceFactory ω δ}
    {world : ω} {c : Context δ P D} (h : openWith config ui factory world = .ok c) :
    0 < config.width ∧ 0 < config.height ∧ ∃ d d', factory.build config world = .ok d ∧
      Device.resizeTargets config.width.toNat config.height.toNat d = (.ok (), d') ∧
      c = .ofDevice config ui d' := by
  rw [openWith] at h
  split at h
  · cases h
  · cases ui with
    | stopped => cases h
    | dropping => cases h
    | running name =>
      simp only [UiThread.run] at h
      split at h
      · cases h
      · cases h
      · rename_i d hbuild
        split at h
        · rename_i d' hresize
          exact ⟨by omega, by omega, d, d', Except.ok.inj hbuild, hresize, (Except.ok.inj h).symm⟩
        · cases h

end Context

/-! ### Operations -/

namespace Op

/-- What an operation may change, by the calls that it makes. -/
inductive Changes (c : Context δ P D) : List CallKind → Context δ P D → Prop
  | host (tracker : Tracker) (bindings : DrawBindings) :
      Changes c [] { c with tracker, bindings }
  | surface (device : δ) (width height : ℤ) :
      Changes c [.surface, .targets] { c with device, config := { c.config with width, height } }
  | clear (serial : FrameSerial) (device : δ) :
      Changes c [.clearing, .submitting] { c with serial, device }
  | present (device : δ) : Changes c [.presenting] { c with device }
  | buffers (buffers : BufferAllocator) (device : δ) (bindings : DrawBindings) :
      Changes c [.memory] { c with buffers, device, bindings }
  | layouts (layouts : LayoutRegistry) (device : δ) :
      Changes c [.layouts] { c with layouts, device }
  | draw (cache : Cache P D) (serial : FrameSerial) (device : δ) :
      Changes c [.compiling, .drawing, .submitting] { c with cache, serial, device }

theorem changes_apply (op : Op) (c : Context δ P D) : Changes c op.calls (op.apply c).2 := by
  cases op with
  | set setting =>
    rw [apply, replyWith_snd]
    exact .host _ c.bindings
  | resize width height scale fullscreen =>
    rw [apply, replyWith_snd]
    obtain ⟨device, w, h, hsnd⟩ := c.resize_snd width height scale fullscreen
    rw [hsnd]
    exact .surface device w h
  | clear color =>
    rw [apply, replyWith_snd, Context.clear, Context.submitUnit_snd]
    exact .clear _ _
  | present =>
    rw [apply, replyWith_snd, Context.present_snd]
    exact .present _
  | createBuffer usage size data =>
    rw [apply, replyWith_snd]
    obtain ⟨buffers, device, h⟩ := c.createBuffer_snd usage size data
    rw [h]
    exact .buffers buffers device c.bindings
  | updateBuffer buffer offset data length =>
    rw [apply, replyWith_snd, Context.updateBuffer]
    exact .buffers _ _ c.bindings
  | destroyBuffer buffer =>
    rw [apply, replyWith_snd]
    obtain ⟨buffers, device, bindings, h⟩ := c.destroyBuffer_snd buffer
    rw [h]
    exact .buffers buffers device bindings
  | registerLayout stride count packed =>
    rw [apply, replyWith_snd, Context.registerLayout]
    exact .layouts _ _
  | bindVertex buffer layout =>
    rw [apply, replyWith_snd]
    obtain ⟨bindings, h⟩ := c.bindVertex_snd buffer layout
    rw [h]
    exact .host c.tracker bindings
  | bindIndex buffer =>
    rw [apply, replyWith_snd]
    obtain ⟨bindings, h⟩ := c.bindIndex_snd buffer
    rw [h]
    exact .host c.tracker bindings
  | draw mode first count =>
    rw [apply, replyWith_snd]
    obtain ⟨cache, serial, device, h⟩ := c.draw_snd mode first count
    rw [h]
    exact .draw cache serial device
  | drawIndexed mode count indexType =>
    rw [apply, replyWith_snd]
    obtain ⟨cache, serial, device, h⟩ := c.drawIndexed_snd mode count indexType
    rw [h]
    exact .draw cache serial device

namespace Changes

variable {c c' : Context δ P D} {kinds : List CallKind}

omit [Device δ P D] in
lemma buffers_eq (h : Changes c kinds c') (hk : .memory ∉ kinds) : c'.buffers = c.buffers := by
  cases h with
  | buffers => exact absurd (List.mem_singleton.mpr rfl) hk
  | _ => rfl

omit [Device δ P D] in
lemma cache_eq (h : Changes c kinds c') (hk : .compiling ∉ kinds) : c'.cache = c.cache := by
  cases h with
  | draw => exact absurd List.mem_cons_self hk
  | _ => rfl

omit [Device δ P D] in
lemma layouts_eq (h : Changes c kinds c') (hk : .layouts ∉ kinds) : c'.layouts = c.layouts := by
  cases h with
  | layouts => exact absurd (List.mem_singleton.mpr rfl) hk
  | _ => rfl

omit [Device δ P D] in
lemma serial_eq (h : Changes c kinds c') (hk : .submitting ∉ kinds) : c'.serial = c.serial := by
  cases h with
  | clear => exact absurd (by simp) hk
  | draw => exact absurd (by simp) hk
  | _ => rfl

omit [Device δ P D] in
/-- The render state changes without any call. -/
lemma tracker_eq (h : Changes c kinds c') (hk : kinds ≠ []) : c'.tracker = c.tracker := by
  cases h with
  | host => exact absurd rfl hk
  | _ => rfl

omit [Device δ P D] in
/-- Bindings change without any call, or with the buffers. -/
lemma bindings_eq (h : Changes c kinds c') (hk : kinds ≠ []) (hmemory : .memory ∉ kinds) :
    c'.bindings = c.bindings := by
  cases h with
  | host => exact absurd rfl hk
  | buffers => exact absurd (List.mem_singleton.mpr rfl) hmemory
  | _ => rfl

omit [Device δ P D] in
/-- Only a resize changes the configuration. -/
lemma config_eq (h : Changes c kinds c') (hk : .targets ∉ kinds) : c'.config = c.config := by
  cases h with
  | surface => exact absurd (by simp) hk
  | _ => rfl

omit [Device δ P D] in
/-- What host memory has left changes from outside only. -/
lemma host_eq (h : Changes c kinds c') : c'.host = c.host := by
  cases h <;> rfl

omit [Device δ P D] in
/-- Format and sample count are fixed when a context is opened. -/
lemma colorFormat_eq (h : Changes c kinds c') : c'.config.colorFormat = c.config.colorFormat := by
  cases h <;> rfl

omit [Device δ P D] in
lemma sampleCount_eq (h : Changes c kinds c') : c'.config.sampleCount = c.config.sampleCount := by
  cases h <;> rfl

end Changes

/-- Only settings change the render state. -/
lemma tracker_apply (op : Op) (c : Context δ P D) :
    (op.apply c).2.tracker = match op with
      | set setting => (c.tracker.apply setting).2
      | _ => c.tracker := by
  cases op with
  | set setting =>
    rw [apply, replyWith_snd]
    rfl
  | bindVertex buffer layout =>
    obtain ⟨bindings, hsnd⟩ := c.bindVertex_snd buffer layout
    rw [apply, replyWith_snd, hsnd]
  | bindIndex buffer =>
    obtain ⟨bindings, hsnd⟩ := c.bindIndex_snd buffer
    rw [apply, replyWith_snd, hsnd]
  | _ => exact (changes_apply _ c).tracker_eq (by simp [calls])

end Op

/-! ### Runs -/

/-- Format and sample count never change. -/
theorem Step.run_target {α : Type} [Adjustable δ α] (steps : List (Step α)) (c : Context δ P D) :
    (run steps c).config.colorFormat = c.config.colorFormat ∧
      (run steps c).config.sampleCount = c.config.sampleCount := by
  refine run_induction (I := fun c' => c'.config.colorFormat = c.config.colorFormat ∧
    c'.config.sampleCount = c.config.sampleCount) (fun step c' hc' => ?_) steps ⟨rfl, rfl⟩
  cases step with
  | perform op =>
    have hchanges := op.changes_apply c'
    exact ⟨hchanges.colorFormat_eq.trans hc'.1, hchanges.sampleCount_eq.trans hc'.2⟩
  | adjust change => exact hc'
  | setUi _ | setHost _ => exact hc'

end RenderBridge
