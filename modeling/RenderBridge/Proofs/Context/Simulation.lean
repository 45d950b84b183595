import RenderBridge.Context.Op
import RenderBridge.Proofs.Device.Request
/-!
What an operation does to a context depends on its device only through the answers of the device.

* `Context.Alike`: two contexts that differ only in their devices, which are in a relation.
* `Op.apply_alike`: **an operation on devices that answer alike** answers alike and leaves alike
  contexts; `Op.calls` names the calls that it makes.
* `Op.apply_keeps`: a property that those calls keep is kept by the operation.
-/

set_option autoImplicit false

namespace RenderBridge

variable {δ δ' P D : Type} [Device δ P D] [Device δ' P D]
variable {S : δ → δ' → Prop} {kinds : List CallKind} {d : δ} {d' : δ'}

/-! ### Compiled objects -/

lemma Cache.pipeline_agree (h : Simulates S kinds) (hk : .compiling ∈ kinds) (hS : S d d')
    (cache : Cache P D) (key : PipelineKey) (layout : Option VertexLayout) :
    AgreeWith S (cache.pipeline key layout d) (cache.pipeline key layout d') := by
  rw [Cache.pipeline, Cache.pipeline]
  cases cache.pipelines.get? key with
  | some pipeline => exact ⟨rfl, rfl, hS⟩
  | none =>
    have hcall : Agree S (Device.compilePipeline key layout d)
        (Device.compilePipeline key layout d') := h.call (.compilePipeline key layout) hk hS
    obtain ⟨answer, e, e', he, he', hS⟩ := hcall.cases
    rw [he, he']
    cases answer <;> exact ⟨rfl, rfl, hS⟩

lemma Cache.depthStencil_agree (h : Simulates S kinds) (hk : .compiling ∈ kinds) (hS : S d d')
    (cache : Cache P D) (key : DepthStencilKey) :
    AgreeWith S (cache.depthStencil key d) (cache.depthStencil key d') := by
  rw [Cache.depthStencil, Cache.depthStencil]
  cases cache.depthStencils.get? key with
  | some depthStencil => exact ⟨rfl, rfl, hS⟩
  | none =>
    have hcall : Agree S (Device.compileDepthStencil key d)
        (Device.compileDepthStencil key d') := h.call (.compileDepthStencil key) hk hS
    obtain ⟨answer, e, e', he, he', hS⟩ := hcall.cases
    rw [he, he']
    cases answer <;> exact ⟨rfl, rfl, hS⟩

lemma DrawConfig.resolve_agree (h : Simulates S kinds) (hk : .compiling ∈ kinds) (hS : S d d')
    (s : Snapshot) (target : DrawTarget) (layout : Option VertexLayout) (cache : Cache P D) :
    AgreeWith S (resolve s target layout cache d) (resolve s target layout cache d') := by
  rw [resolve, resolve]
  cases s.check with
  | error fault => exact ⟨rfl, rfl, hS⟩
  | ok _ =>
    obtain ⟨answer, cache, e, e', he, he', hS⟩ :=
      (cache.pipeline_agree h hk hS (PipelineKey.of s target) layout).cases
    rw [he, he']
    cases answer with
    | error fault => exact ⟨rfl, rfl, hS⟩
    | ok pipeline =>
      obtain ⟨answer, cache, e, e', he, he', hS⟩ :=
        (cache.depthStencil_agree h hk hS (DepthStencilKey.of s)).cases
      dsimp only
      rw [he, he']
      cases answer <;> exact ⟨rfl, rfl, hS⟩

/-- What compiling keeps of a device, resolving the state of a draw keeps. -/
lemma DrawConfig.resolve_keeps {I : δ → Prop} (h : Keeps I [.compiling]) (hd : I d)
    (s : Snapshot) (target : DrawTarget) (layout : Option VertexLayout) (cache : Cache P D) :
    I (resolve s target layout cache d).2.2 :=
  (resolve_agree h.simulates (List.mem_singleton.mpr rfl) ⟨rfl, hd⟩ s target layout cache).2.2.2

/-! ### Frames and layouts -/

lemma FrameSerial.submit_agree (h : Simulates S kinds) (hk : .submitting ∈ kinds) (hS : S d d')
    (serial : FrameSerial) : AgreeWith S (serial.submit d) (serial.submit d') := by
  rw [FrameSerial.submit, FrameSerial.submit]
  have hcall : Agree S (Device.submit d) (Device.submit d') := h.call .submit hk hS
  obtain ⟨answer, e, e', he, he', hS⟩ := hcall.cases
  rw [he, he']
  cases answer <;> exact ⟨rfl, rfl, hS⟩

/-- What submitting keeps of a device, submitting a frame keeps. -/
lemma FrameSerial.submit_keeps {I : δ → Prop} (h : Keeps I [.submitting]) (hd : I d)
    (serial : FrameSerial) : I (serial.submit d).2.2 :=
  (submit_agree h.simulates (List.mem_singleton.mpr rfl) ⟨rfl, hd⟩ serial).2.2.2

lemma LayoutRegistry.register_agree (h : Simulates S kinds) (hk : .layouts ∈ kinds) (hS : S d d')
    (r : LayoutRegistry) (stride count : ℤ) (packed : Bytes) :
    AgreeWith S (r.register stride count packed d) (r.register stride count packed d') := by
  rw [register, register]
  cases VertexLayout.parse stride count packed with
  | error fault => exact ⟨rfl, rfl, hS⟩
  | ok layout =>
    have hcall : Agree S (Device.createLayout layout d) (Device.createLayout layout d') :=
      h.call (.createLayout layout) hk hS
    obtain ⟨answer, e, e', he, he', hS⟩ := hcall.cases
    dsimp only
    rw [he, he']
    cases answer <;> exact ⟨rfl, rfl, hS⟩

/-! ### Buffers -/

lemma StagingRing.releaseOutgrown_related (h : Simulates S kinds) (hk : .memory ∈ kinds)
    (hS : S d d') (before after : StagingRing) :
    S (releaseOutgrown before after d) (releaseOutgrown before after d') := by
  rw [releaseOutgrown, releaseOutgrown]
  cases before.buffer with
  | none => exact hS
  | some buffer =>
    cases after.buffer with
    | none => exact (h.call (.releaseBuffer buffer) hk hS).2
    | some _ => exact hS

lemma StagingRing.ensureBuffer_agree (h : Simulates S kinds) (hk : .memory ∈ kinds) (hS : S d d')
    (r : StagingRing) : AgreeWith S (r.ensureBuffer d) (r.ensureBuffer d') := by
  rw [ensureBuffer, ensureBuffer]
  cases r.buffer with
  | some buffer => exact ⟨rfl, rfl, hS⟩
  | none =>
    have hcall : Agree S (Device.createBuffer r.capacity (some label) d)
        (Device.createBuffer r.capacity (some label) d') :=
      h.call (.createBuffer r.capacity (some label)) hk hS
    obtain ⟨answer, e, e', he, he', hS⟩ := hcall.cases
    dsimp only
    rw [he, he']
    cases answer <;> exact ⟨rfl, rfl, hS⟩

lemma StagingRing.reserve_agree (h : Simulates S kinds) (hk : .memory ∈ kinds) (hS : S d d')
    (r : StagingRing) (length : ℕ) (serial : FrameSerial) :
    AgreeWith S (r.reserve length serial d) (r.reserve length serial d') := by
  rw [reserve, reserve]
  cases r.settle length serial with
  | mk offset settled =>
    obtain ⟨answer, ring, e, e', he, he', hS⟩ := (settled.ensureBuffer_agree h hk
      (releaseOutgrown_related h hk hS r settled)).cases
    dsimp only
    rw [he, he']
    cases answer <;> exact ⟨rfl, rfl, hS⟩

namespace BufferAllocator

lemma writeSlots_agree (h : Simulates S kinds) (hk : .memory ∈ kinds) (bytes : Bytes)
    (slots : List ℕ) (record : BufferRecord) (hS : S d d') :
    Agree S (writeSlots bytes slots record d) (writeSlots bytes slots record d') := by
  induction slots generalizing record d d' with
  | nil => exact ⟨rfl, hS⟩
  | cons slot rest ih =>
    have hgranule : granule d = granule d' := by rw [granule, granule, h.granule hS]
    rw [writeSlots, writeSlots, hgranule]
    cases record.stage (record.slotOffset slot) bytes (granule d') with
    | mk upload record =>
      have hcall : Agree S (Device.writeBuffer record.buffer upload.offset upload.bytes d)
          (Device.writeBuffer record.buffer upload.offset upload.bytes d') :=
        h.call (.writeBuffer record.buffer upload.offset upload.bytes) hk hS
      obtain ⟨answer, e, e', he, he', hS⟩ := hcall.cases
      dsimp only
      rw [he, he']
      cases answer with
      | ok _ => exact ih record hS
      | error fault => exact ⟨rfl, hS⟩

lemma fill_agree (h : Simulates S kinds) (hk : .memory ∈ kinds) (hS : S d d')
    (host : HostMemory) (record : BufferRecord) (data : Option Bytes) :
    Agree S (fill host record data d) (fill host record data d') := by
  have hgranule : granule d = granule d' := by rw [granule, granule, h.granule hS]
  rw [fill, fill, hgranule]
  cases newShadow host (granule d') record.total with
  | error fault => exact ⟨rfl, hS⟩
  | ok shadow =>
    cases data with
    | none => exact ⟨rfl, hS⟩
    | some bytes =>
      dsimp only
      by_cases hempty : bytes.isEmpty
      · rw [if_pos hempty, if_pos hempty]
        exact ⟨rfl, hS⟩
      · rw [if_neg hempty, if_neg hempty]
        exact writeSlots_agree h hk bytes _ _ hS

lemma create_agree (h : Simulates S kinds) (hk : .memory ∈ kinds) (hS : S d d')
    (a : BufferAllocator) (usage : BufferUsage) (size : ℤ) (data : Option Bytes)
    (host : HostMemory) :
    AgreeWith S (a.create usage size data d host) (a.create usage size data d' host) := by
  have hgranule : granule d = granule d' := by rw [granule, granule, h.granule hS]
  rw [create, create, hgranule]
  cases checkCreate usage size data (granule d') with
  | error fault => exact ⟨rfl, rfl, hS⟩
  | ok slotSize =>
    have hcall : Agree S
        (Device.createBuffer (slotSize * usage.slotCount) (a.nextLabel usage) d)
        (Device.createBuffer (slotSize * usage.slotCount) (a.nextLabel usage) d') :=
      h.call (.createBuffer (slotSize * usage.slotCount) (a.nextLabel usage)) hk hS
    obtain ⟨answer, e, e', he, he', hS⟩ := hcall.cases
    dsimp only
    rw [he, he']
    cases answer with
    | error fault => exact ⟨rfl, rfl, hS⟩
    | ok buffer =>
      obtain ⟨answer, e, e', he, he', hS⟩ :=
        (fill_agree h hk hS host ⟨usage, size.toNat, slotSize, buffer, none⟩ data).cases
      have hrelease : S (Device.releaseBuffer buffer e) (Device.releaseBuffer buffer e') :=
        (h.call (.releaseBuffer buffer) hk hS).2
      dsimp only
      rw [he, he']
      cases answer with
      | error fault => exact ⟨rfl, rfl, hrelease⟩
      | ok record =>
        cases hissue : a.issue record with
        | mk result issued =>
          cases result with
          | ok handle =>
            simp only [hissue]
            exact ⟨rfl, rfl, hS⟩
          | error fault =>
            simp only [hissue]
            exact ⟨rfl, rfl, hrelease⟩

lemma uploadStaged_agree (h : Simulates S kinds) (hk : .memory ∈ kinds) (hS : S d d')
    (ring : StagingRing) (buffer : BufferId) (upload : Upload) (serial : FrameSerial) :
    AgreeWith S (uploadStaged ring buffer upload serial d)
      (uploadStaged ring buffer upload serial d') := by
  rw [uploadStaged, uploadStaged]
  obtain ⟨answer, ring, e, e', he, he', hS⟩ :=
    (ring.reserve_agree h hk hS upload.bytes.size serial).cases
  rw [he, he']
  cases answer with
  | error fault => exact ⟨rfl, rfl, hS⟩
  | ok place =>
    obtain ⟨staging, offset⟩ := place
    have hwrite : Agree S (Device.writeBuffer staging offset upload.bytes e)
        (Device.writeBuffer staging offset upload.bytes e') :=
      h.call (.writeBuffer staging offset upload.bytes) hk hS
    obtain ⟨answer, e, e', he, he', hS⟩ := hwrite.cases
    dsimp only
    rw [he, he']
    cases answer with
    | error fault => exact ⟨rfl, rfl, hS⟩
    | ok _ =>
      have hcopy : Agree S
          (Device.copyBuffer staging offset buffer upload.offset upload.bytes.size e)
          (Device.copyBuffer staging offset buffer upload.offset upload.bytes.size e') :=
        h.call (.copyBuffer staging offset buffer upload.offset upload.bytes.size) hk hS
      obtain ⟨answer, e, e', he, he', hS⟩ := hcopy.cases
      dsimp only
      rw [he, he']
      cases answer <;> exact ⟨rfl, rfl, hS⟩

lemma update_agree (h : Simulates S kinds) (hk : .memory ∈ kinds) (hS : S d d')
    (a : BufferAllocator) (handle : BufferHandle) (offset : ℤ) (data : Option Bytes) (length : ℤ)
    (serial : FrameSerial) :
    AgreeWith S (a.update handle offset data length serial d)
      (a.update handle offset data length serial d') := by
  have hgranule : granule d = granule d' := by rw [granule, granule, h.granule hS]
  rw [update, update]
  cases a.checkUpdate handle offset data length with
  | error fault => exact ⟨rfl, rfl, hS⟩
  | ok checked =>
    cases checked with
    | none => exact ⟨rfl, rfl, hS⟩
    | some u =>
      dsimp only
      rw [hgranule]
      cases u.record.stage (u.record.activeOffset serial + u.offset) u.payload (granule d') with
      | mk upload record =>
        dsimp only
        cases record.usage with
        | unchanging =>
          have hwrite : Agree S (Device.writeBuffer record.buffer upload.offset upload.bytes d)
              (Device.writeBuffer record.buffer upload.offset upload.bytes d') :=
            h.call (.writeBuffer record.buffer upload.offset upload.bytes) hk hS
          obtain ⟨answer, e, e', he, he', hS⟩ := hwrite.cases
          dsimp only
          rw [he, he']
          cases answer <;> exact ⟨rfl, rfl, hS⟩
        | changing =>
          obtain ⟨answer, ring, e, e', he, he', hS⟩ :=
            (uploadStaged_agree h hk hS a.ring record.buffer upload serial).cases
          dsimp only
          rw [he, he']
          exact ⟨rfl, rfl, hS⟩

lemma destroy_agree (h : Simulates S kinds) (hk : .memory ∈ kinds) (hS : S d d')
    (a : BufferAllocator) (handle : BufferHandle) :
    AgreeWith S (a.destroy handle d) (a.destroy handle d') := by
  rw [destroy, destroy]
  cases a.find handle with
  | error fault => exact ⟨rfl, rfl, hS⟩
  | ok record => exact ⟨rfl, rfl, (h.call (.releaseBuffer record.buffer) hk hS).2⟩

end BufferAllocator

/-! ### Contexts -/

/-- The context with its device exchanged. -/
def Context.onDevice (c : Context δ P D) (d : δ') : Context δ' P D where
  config := c.config
  ui := c.ui
  host := c.host
  tracker := c.tracker
  cache := c.cache
  buffers := c.buffers
  layouts := c.layouts
  serial := c.serial
  bindings := c.bindings
  device := d

/-- Two contexts that differ only in their devices, which are in the relation. -/
def Context.Alike (S : δ → δ' → Prop) (c : Context δ P D) (c' : Context δ' P D) : Prop :=
  ∃ d', c' = c.onDevice d' ∧ S c.device d'

namespace Context

variable {c : Context δ P D} {c' : Context δ' P D}

lemma resize_alike (h : Simulates S kinds) (hsurface : .surface ∈ kinds)
    (htargets : .targets ∈ kinds) (hc : Alike S c c') (width height : ℤ) (scale : Single)
    (fullscreen : Bool) :
    Agree (Alike S) (c.resize width height scale fullscreen)
      (c'.resize width height scale fullscreen) := by
  obtain ⟨d', rfl, hS⟩ := hc
  rw [resize, resize]
  by_cases hempty : width ≤ 0 ∨ height ≤ 0
  · rw [if_pos hempty, if_pos hempty]
    exact ⟨rfl, d', rfl, hS⟩
  · rw [if_neg hempty, if_neg hempty]
    dsimp only [onDevice]
    cases hui : c.ui with
    | stopped =>
      simp only [UiThread.run]
      exact ⟨rfl, d', by simp only [onDevice, hui], hS⟩
    | dropping =>
      simp only [UiThread.run]
      exact ⟨rfl, d', by simp only [onDevice, hui], hS⟩
    | running name =>
      have hgeometry := (h.call (.applyGeometry
        ⟨width.toNat, height.toNat, effectiveScale scale, fullscreen⟩ name) hsurface hS).2
      have hcall := h.call (.resizeTargets width.toNat height.toNat) htargets hgeometry
      obtain ⟨answer, e, e', he, he', hS⟩ := hcall.cases
      simp only [Request.perform] at he he'
      simp only [UiThread.run, he, he']
      cases answer <;> exact ⟨rfl, e', by simp only [onDevice], hS⟩

lemma submitUnit_alike (h : Simulates S kinds) (hk : .submitting ∈ kinds) (hc : Alike S c c')
    (encoded : Except DeviceFault Unit) :
    Agree (Alike S) (c.submitUnit encoded) (c'.submitUnit encoded) := by
  obtain ⟨d', rfl, hS⟩ := hc
  obtain ⟨answer, serial, e, e', he, he', hS⟩ := (c.serial.submit_agree h hk hS).cases
  rw [submitUnit, submitUnit]
  dsimp only [onDevice]
  rw [he, he']
  cases encoded <;> cases answer <;> exact ⟨rfl, e', rfl, hS⟩

lemma clear_alike (h : Simulates S kinds) (hclear : .clearing ∈ kinds)
    (hsubmit : .submitting ∈ kinds) (hc : Alike S c c') (color : Color) :
    Agree (Alike S) (c.clear color) (c'.clear color) := by
  obtain ⟨d', rfl, hS⟩ := hc
  rw [clear, clear]
  dsimp only [onDevice]
  generalize (⟨clampComponent color.red, clampComponent color.green, clampComponent color.blue,
    clampComponent color.alpha⟩ : Color) = clamped
  have hcall : Agree S (Device.clear clamped c.device) (Device.clear clamped d') :=
    h.call (.clear clamped) hclear hS
  obtain ⟨answer, e, e', he, he', hS⟩ := hcall.cases
  rw [he, he']
  exact submitUnit_alike h hsubmit ⟨e', rfl, hS⟩ answer

lemma present_alike (h : Simulates S kinds) (hk : .presenting ∈ kinds) (hc : Alike S c c') :
    Agree (Alike S) c.present c'.present := by
  obtain ⟨d', rfl, hS⟩ := hc
  have hcall : Agree S (Device.present c.device) (Device.present d') := h.call .present hk hS
  obtain ⟨answer, e, e', he, he', hS⟩ := hcall.cases
  rw [present, present]
  dsimp only [onDevice]
  rw [he, he']
  cases answer <;> exact ⟨rfl, e', rfl, hS⟩

lemma createBuffer_alike (h : Simulates S kinds) (hk : .memory ∈ kinds) (hc : Alike S c c')
    (usage size : ℤ) (data : Option Bytes) :
    Agree (Alike S) (c.createBuffer usage size data) (c'.createBuffer usage size data) := by
  obtain ⟨d', rfl, hS⟩ := hc
  rw [createBuffer, createBuffer]
  cases BufferUsage.ofToken usage with
  | error fault => exact ⟨rfl, d', rfl, hS⟩
  | ok usage =>
    obtain ⟨answer, buffers, e, e', he, he', hS⟩ :=
      (c.buffers.create_agree h hk hS usage size data c.host).cases
    dsimp only [onDevice]
    rw [he, he']
    exact ⟨rfl, e', rfl, hS⟩

lemma updateBuffer_alike (h : Simulates S kinds) (hk : .memory ∈ kinds) (hc : Alike S c c')
    (buffer : BufferHandle) (offset : ℤ) (data : Option Bytes) (length : ℤ) :
    Agree (Alike S) (c.updateBuffer buffer offset data length)
      (c'.updateBuffer buffer offset data length) := by
  obtain ⟨d', rfl, hS⟩ := hc
  obtain ⟨answer, buffers, e, e', he, he', hS⟩ :=
    (c.buffers.update_agree h hk hS buffer offset data length c.serial).cases
  rw [updateBuffer, updateBuffer]
  dsimp only [onDevice]
  rw [he, he']
  exact ⟨rfl, e', rfl, hS⟩

lemma destroyBuffer_alike (h : Simulates S kinds) (hk : .memory ∈ kinds) (hc : Alike S c c')
    (buffer : BufferHandle) :
    Agree (Alike S) (c.destroyBuffer buffer) (c'.destroyBuffer buffer) := by
  obtain ⟨d', rfl, hS⟩ := hc
  obtain ⟨answer, buffers, e, e', he, he', hS⟩ := (c.buffers.destroy_agree h hk hS buffer).cases
  rw [destroyBuffer, destroyBuffer]
  dsimp only [onDevice]
  rw [he, he']
  cases answer <;> exact ⟨rfl, e', rfl, hS⟩

lemma registerLayout_alike (h : Simulates S kinds) (hk : .layouts ∈ kinds) (hc : Alike S c c')
    (stride count : ℤ) (packed : Bytes) :
    Agree (Alike S) (c.registerLayout stride count packed)
      (c'.registerLayout stride count packed) := by
  obtain ⟨d', rfl, hS⟩ := hc
  obtain ⟨answer, layouts, e, e', he, he', hS⟩ :=
    (c.layouts.register_agree h hk hS stride count packed).cases
  rw [registerLayout, registerLayout]
  dsimp only [onDevice]
  rw [he, he']
  exact ⟨rfl, e', rfl, hS⟩

omit [Device δ P D] [Device δ' P D] in
lemma drawInputs_onDevice (c : Context δ P D) (d' : δ') (kind : DrawKind) :
    (c.onDevice d').drawInputs kind = c.drawInputs kind := rfl

lemma drawUnit_alike (h : Simulates S kinds) (hcompile : .compiling ∈ kinds)
    (hdraw : .drawing ∈ kinds) (hsubmit : .submitting ∈ kinds) (hc : Alike S c c')
    (topology : Topology) (kind : DrawKind) :
    Agree (Alike S) (c.drawUnit topology kind) (c'.drawUnit topology kind) := by
  obtain ⟨d', rfl, hS⟩ := hc
  rw [drawUnit, drawUnit, drawInputs_onDevice]
  cases c.drawInputs kind with
  | error fault => exact ⟨rfl, d', rfl, hS⟩
  | ok inputs =>
    obtain ⟨answer, cache, e, e', he, he', hS⟩ := (DrawConfig.resolve_agree h hcompile hS
      c.tracker.snapshot (c.drawTarget topology (inputs.layout.map (·.1)))
      (inputs.layout.map (·.2)) c.cache).cases
    have htarget : (c.onDevice d').drawTarget topology (inputs.layout.map (·.1)) =
        c.drawTarget topology (inputs.layout.map (·.1)) := rfl
    dsimp only
    rw [htarget]
    dsimp only [onDevice]
    rw [he, he']
    cases answer with
    | error fault => exact ⟨rfl, e', rfl, hS⟩
    | ok config =>
      have hcall : Agree S (Device.encodeDraw config ⟨kind, inputs.vertex, inputs.index⟩ e)
          (Device.encodeDraw config ⟨kind, inputs.vertex, inputs.index⟩ e') :=
        h.call (.encodeDraw config ⟨kind, inputs.vertex, inputs.index⟩) hdraw hS
      obtain ⟨encoded, f, f', hf, hf', hS⟩ := hcall.cases
      dsimp only
      rw [hf, hf']
      exact submitUnit_alike h hsubmit ⟨f', rfl, hS⟩ encoded

lemma draw_alike (h : Simulates S kinds) (hcompile : .compiling ∈ kinds)
    (hdraw : .drawing ∈ kinds) (hsubmit : .submitting ∈ kinds) (hc : Alike S c c')
    (mode : UInt32) (first count : ℤ) :
    Agree (Alike S) (c.draw mode first count) (c'.draw mode first count) := by
  rw [draw, draw]
  cases Token.topology mode with
  | error fault => exact ⟨rfl, hc⟩
  | ok topology =>
    dsimp only
    split
    · exact ⟨rfl, hc⟩
    · split
      · exact ⟨rfl, hc⟩
      · exact drawUnit_alike h hcompile hdraw hsubmit hc topology _

lemma drawIndexed_alike (h : Simulates S kinds) (hcompile : .compiling ∈ kinds)
    (hdraw : .drawing ∈ kinds) (hsubmit : .submitting ∈ kinds) (hc : Alike S c c')
    (mode : UInt32) (count : ℤ) (indexType : UInt32) :
    Agree (Alike S) (c.drawIndexed mode count indexType)
      (c'.drawIndexed mode count indexType) := by
  rw [drawIndexed, drawIndexed]
  cases Token.topology mode with
  | error fault => exact ⟨rfl, hc⟩
  | ok topology =>
    cases Token.indexFormat indexType with
    | error fault => exact ⟨rfl, hc⟩
    | ok format =>
      dsimp only
      split
      · exact ⟨rfl, hc⟩
      · split
        · exact ⟨rfl, hc⟩
        · exact drawUnit_alike h hcompile hdraw hsubmit hc topology _

end Context

/-! ### Operations -/

namespace Op

/-- The calls that an operation makes. -/
def calls : Op → List CallKind
  | set _ | bindVertex .. | bindIndex _ => []
  | resize .. => [.surface, .targets]
  | clear _ => [.clearing, .submitting]
  | present => [.presenting]
  | createBuffer .. | updateBuffer .. | destroyBuffer _ => [.memory]
  | registerLayout .. => [.layouts]
  | draw .. | drawIndexed .. => [.compiling, .drawing, .submitting]

omit [Device δ P D] [Device δ' P D] in
lemma replyWith_alike {α : Type} {c : Except Fault α × Context δ P D}
    {c' : Except Fault α × Context δ' P D} (reply : α → Reply)
    (h : Agree (Context.Alike S) c c') :
    Agree (Context.Alike S) (replyWith reply c) (replyWith reply c') := by
  obtain ⟨answer, c, c', rfl, rfl, hc⟩ := h.cases
  cases answer <;> exact ⟨rfl, hc⟩

/-- An operation on alike contexts answers alike and leaves alike contexts, where the devices
answer the calls that it makes alike. -/
theorem apply_alike {c : Context δ P D} {c' : Context δ' P D} (op : Op)
    (h : Simulates S op.calls) (hc : Context.Alike S c c') :
    Agree (Context.Alike S) (op.apply c) (op.apply c') := by
  cases op with
  | set setting =>
    obtain ⟨d', rfl, hS⟩ := hc
    exact replyWith_alike _ ⟨rfl, d', rfl, hS⟩
  | resize width height scale fullscreen =>
    exact replyWith_alike _
      (Context.resize_alike h (by simp [calls]) (by simp [calls]) hc width height scale fullscreen)
  | clear color =>
    exact replyWith_alike _ (Context.clear_alike h (by simp [calls]) (by simp [calls]) hc color)
  | present => exact replyWith_alike _ (Context.present_alike h (by simp [calls]) hc)
  | createBuffer usage size data =>
    exact replyWith_alike _ (Context.createBuffer_alike h (by simp [calls]) hc usage size data)
  | updateBuffer buffer offset data length =>
    exact replyWith_alike _
      (Context.updateBuffer_alike h (by simp [calls]) hc buffer offset data length)
  | destroyBuffer buffer =>
    exact replyWith_alike _ (Context.destroyBuffer_alike h (by simp [calls]) hc buffer)
  | registerLayout stride count packed =>
    exact replyWith_alike _
      (Context.registerLayout_alike h (by simp [calls]) hc stride count packed)
  | bindVertex buffer layout =>
    obtain ⟨d', rfl, hS⟩ := hc
    refine replyWith_alike _ ?_
    rw [Context.bindVertex, Context.bindVertex]
    dsimp only [Context.onDevice]
    cases c.buffers.find buffer with
    | error fault => exact ⟨rfl, d', rfl, hS⟩
    | ok record => cases c.layouts.find layout <;> exact ⟨rfl, d', rfl, hS⟩
  | bindIndex buffer =>
    obtain ⟨d', rfl, hS⟩ := hc
    refine replyWith_alike _ ?_
    rw [Context.bindIndex, Context.bindIndex]
    dsimp only [Context.onDevice]
    cases c.buffers.find buffer <;> exact ⟨rfl, d', rfl, hS⟩
  | draw mode first count =>
    exact replyWith_alike _ (Context.draw_alike h (by simp [calls]) (by simp [calls])
      (by simp [calls]) hc mode first count)
  | drawIndexed mode count indexType =>
    exact replyWith_alike _ (Context.drawIndexed_alike h (by simp [calls]) (by simp [calls])
      (by simp [calls]) hc mode count indexType)

/-- A property of the device that the calls of an operation keep is kept by the operation. -/
theorem apply_keeps {I : δ → Prop} (op : Op) (h : Keeps I op.calls) (c : Context δ P D)
    (hI : I c.device) : I (op.apply c).2.device := by
  have halike : Context.Alike (fun d d' => d = d' ∧ I d) c c := ⟨c.device, rfl, rfl, hI⟩
  obtain ⟨-, d', -, hS⟩ := apply_alike op h.simulates halike
  exact hS.2

end Op

end RenderBridge
