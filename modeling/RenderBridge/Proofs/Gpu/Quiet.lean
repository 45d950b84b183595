import RenderBridge.Gpu.Device
import RenderBridge.Proofs.Device.Request
/-!
Calls of a graphics device that have nothing to do with pipelines.

* `GpuEvent.IsQuiet`: calls on the machine that neither build nor set a pipeline nor draw.
* `GpuDevice.Quiet`: only such calls were made, and what the device remembers of pipelines is as it
  was.
* `GpuDevice.quiet_perform`: **all calls are quiet** but for compiling pipelines and drawing.
-/

set_option autoImplicit false

namespace RenderBridge

/-- A call on the machine that neither builds nor sets a pipeline nor draws. -/
def GpuEvent.IsQuiet : GpuEvent → Bool
  | createPipeline .. | setPipeline _ | draw .. | drawIndexed .. => false
  | _ => true

/-! ### The machine -/

namespace Recorder

/-- A machine after quiet calls. -/
structure Quiet (r r' : Recorder) : Prop where
  pipelines : r'.pipelines = r.pipelines
  pipelineErrors : r'.script.pipelineErrors = r.script.pipelineErrors
  log : ∃ events, r'.log = r.log ++ events ∧ ∀ e ∈ events, e.IsQuiet

variable {r r' r'' : Recorder}

namespace Quiet

lemma refl (r : Recorder) : Quiet r r := ⟨rfl, rfl, [], by simp, by simp⟩

lemma trans (h : Quiet r r') (h' : Quiet r' r'') : Quiet r r'' := by
  obtain ⟨events, hlog, hquiet⟩ := h.log
  obtain ⟨events', hlog', hquiet'⟩ := h'.log
  refine ⟨h'.pipelines.trans h.pipelines, h'.pipelineErrors.trans h.pipelineErrors,
    events ++ events', by rw [hlog', hlog, List.append_assoc], fun e he => ?_⟩
  rcases List.mem_append.mp he with he | he
  · exact hquiet e he
  · exact hquiet' e he

end Quiet

lemma quiet_emit (r : Recorder) {events : List GpuEvent} (h : ∀ e ∈ events, e.IsQuiet) :
    Quiet r (r.emit events) := ⟨rfl, rfl, events, rfl, h⟩

lemma quiet_createBuffer (r : Recorder) (label : Option String) (size : ℕ) :
    Quiet r (r.createBuffer label size).2 := ⟨rfl, rfl, _, rfl, by simp [GpuEvent.IsQuiet]⟩

lemma quiet_createTexture (r : Recorder) (label : Option String) (width height : ℕ)
    (samples : UInt32) (format : TextureFormat) :
    Quiet r (r.createTexture label width height samples format).2 :=
  ⟨rfl, rfl, _, rfl, by simp [GpuEvent.IsQuiet]⟩

lemma quiet_createEncoder (r : Recorder) (label : Option String) :
    Quiet r (r.createEncoder label).2 := ⟨rfl, rfl, _, rfl, by simp [GpuEvent.IsQuiet]⟩

lemma quiet_acquire (r : Recorder) : Quiet r r.acquire.2 := by
  rw [acquire]
  dsimp only
  split
  · exact ⟨rfl, rfl, _, rfl, by simp [GpuEvent.IsQuiet]⟩
  · exact ⟨rfl, rfl, _, rfl, by simp [GpuEvent.IsQuiet]⟩

end Recorder

/-! ### The device -/

namespace GpuDevice

/-- A device after quiet calls. Targets that are there stay there. -/
structure Quiet (d d' : GpuDevice) : Prop where
  recorder : d.recorder.Quiet d'.recorder
  templates : d'.templates = d.templates
  variants : d'.variants = d.variants
  colorFormat : d'.colorFormat = d.colorFormat
  sampleCount : d'.sampleCount = d.sampleCount
  targets : d.targets.isSome → d'.targets.isSome

variable {d d' d'' : GpuDevice}

namespace Quiet

lemma refl (d : GpuDevice) : Quiet d d := ⟨.refl _, rfl, rfl, rfl, rfl, id⟩

lemma trans (h : Quiet d d') (h' : Quiet d' d'') : Quiet d d'' where
  recorder := h.recorder.trans h'.recorder
  templates := h'.templates.trans h.templates
  variants := h'.variants.trans h.variants
  colorFormat := h'.colorFormat.trans h.colorFormat
  sampleCount := h'.sampleCount.trans h.sampleCount
  targets := h'.targets ∘ h.targets

/-- Quiet calls on the machine alone. -/
lemma of_recorder {r : Recorder} (h : d.recorder.Quiet r) : Quiet d { d with recorder := r } :=
  ⟨h, rfl, rfl, rfl, rfl, id⟩

lemma emit (h : Quiet d d') {events : List GpuEvent} (hevents : ∀ e ∈ events, e.IsQuiet) :
    Quiet d (d'.emit events) := h.trans (.of_recorder (d'.recorder.quiet_emit hevents))

lemma configureSurface (h : Quiet d d') : Quiet d d'.configureSurface :=
  h.emit (by simp [GpuEvent.IsQuiet])

end Quiet

/-! ### Buffers and surface -/

lemma quiet_createBuffer (size : ℕ) (label : Option String) (d : GpuDevice) :
    Quiet d (createBuffer size label d).2 := by
  rw [createBuffer]
  dsimp only
  split
  · exact .refl d
  · exact .of_recorder (d.recorder.quiet_createBuffer label size)

lemma quiet_writeBuffer (buffer : BufferId) (offset : ℕ) (bytes : Bytes) (d : GpuDevice) :
    Quiet d (writeBuffer buffer offset bytes d).2 := by
  rw [writeBuffer]
  split
  · exact .refl d
  · refine .emit (.refl d) ?_
    simp [GpuEvent.IsQuiet]

lemma quiet_copyBuffer (source : BufferId) (sourceOffset : ℕ) (target : BufferId)
    (targetOffset length : ℕ) (d : GpuDevice) :
    Quiet d (copyBuffer source sourceOffset target targetOffset length d).2 := by
  rw [copyBuffer]
  split
  · exact .refl d
  · split
    · exact .refl d
    · refine .emit (.of_recorder (d.recorder.quiet_createEncoder _)) ?_
      simp [GpuEvent.IsQuiet]

lemma quiet_applyGeometry (geometry : SurfaceGeometry) (d : GpuDevice) :
    Quiet d (d.applyGeometry geometry) := by
  rw [applyGeometry]
  split
  · exact .refl d
  · refine .configureSurface ?_
    exact ⟨.refl _, rfl, rfl, rfl, rfl, id⟩

lemma quiet_dropFrame (d : GpuDevice) : Quiet d d.dropFrame := by
  rw [dropFrame]
  split
  · refine .emit ?_ ?_
    · exact ⟨.refl _, rfl, rfl, rfl, rfl, id⟩
    · simp [GpuEvent.IsQuiet]
  · exact .refl d

lemma quiet_acquire (d : GpuDevice) : Quiet d d.acquire.2 := by
  have hacquire := d.recorder.quiet_acquire
  rw [acquire]
  split
  · exact .refl d
  · split
    · rename_i hcall
      rw [hcall] at hacquire
      refine .emit ?_ ?_
      · exact ⟨hacquire, rfl, rfl, rfl, rfl, id⟩
      · simp [GpuEvent.IsQuiet]
    · rename_i hcall
      rw [hcall] at hacquire
      exact .configureSurface (.of_recorder hacquire)
    · rename_i hcall
      rw [hcall] at hacquire
      exact .configureSurface (.of_recorder hacquire)
    · rename_i hcall
      rw [hcall] at hacquire
      exact .of_recorder hacquire

/-! ### Targets and passes -/

lemma quiet_createSampledView (width height : ℕ) (d : GpuDevice) :
    Quiet d (createSampledView width height d).2 := by
  rw [createSampledView]
  split
  · refine .emit (.of_recorder (d.recorder.quiet_createTexture ..)) ?_
    simp [GpuEvent.IsQuiet]
  · exact .refl d

/-- Targets made anew are there. -/
lemma quiet_resizeTargets (width height : ℕ) (d : GpuDevice) :
    Quiet d (resizeTargets width height d).2 ∧
      ((resizeTargets width height d).1 = .ok () →
        (resizeTargets width height d).2.targets.isSome) := by
  rw [resizeTargets]
  split
  · exact ⟨.refl d, fun h => by cases h⟩
  · have hdepth := (quiet_dropFrame d).trans
      (Quiet.of_recorder (d.dropFrame.recorder.quiet_createTexture
        (d.dropFrame.label "kiln depth-stencil") width height d.dropFrame.sampleCount
          depthStencilFormat))
    have hsampled := hdepth.trans (quiet_createSampledView width height _)
    refine ⟨hsampled.trans ?_, fun _ => rfl⟩
    dsimp only
    refine .emit ?_ ?_
    · exact ⟨.refl _, rfl, rfl, rfl, rfl, fun _ => rfl⟩
    · simp [GpuEvent.IsQuiet]

lemma quiet_ensureEncoder (d : GpuDevice) : Quiet d d.ensureEncoder.2 := by
  rw [ensureEncoder]
  split
  · exact .refl d
  · exact Quiet.mk (d.recorder.quiet_createEncoder _) rfl rfl rfl rfl id

lemma quiet_ensureFrame (d : GpuDevice) : Quiet d d.ensureFrame.2 := by
  have hacquire := d.quiet_acquire
  rw [ensureFrame]
  split
  · exact d.quiet_ensureEncoder
  · split
    · rename_i hcall
      rw [hcall] at hacquire
      exact hacquire
    · rename_i hcall
      rw [hcall] at hacquire
      exact hacquire.trans (quiet_ensureEncoder _)

lemma quiet_beginPass (color : Option Color) (d : GpuDevice) : Quiet d (d.beginPass color).2 := by
  have hframe := d.quiet_ensureFrame
  rw [beginPass]
  split
  · rename_i hcall
    rw [hcall] at hframe
    exact hframe
  · rename_i hcall
    rw [hcall] at hframe
    dsimp only
    split
    · exact hframe
    · refine hframe.emit ?_
      simp [GpuEvent.IsQuiet]

/-! ### Frames -/

lemma quiet_submit (d : GpuDevice) : Quiet d d.submit := by
  rw [submit]
  split
  · refine .emit ?_ ?_
    · exact ⟨.refl _, rfl, rfl, rfl, rfl, id⟩
    · simp [GpuEvent.IsQuiet]
  · refine .emit (.refl d) ?_
    simp [GpuEvent.IsQuiet]

lemma quiet_present (d : GpuDevice) : Quiet d d.present := by
  rw [present]
  split
  · refine .emit ?_ ?_
    · exact ⟨.refl _, rfl, rfl, rfl, rfl, id⟩
    · simp [GpuEvent.IsQuiet]
  · exact .refl d

/-- A call to a graphics device. -/
abbrev Call := Request GpuPipeline GpuDepthStencil

/-- All calls are quiet, but for compiling pipelines and drawing. -/
theorem quiet_perform (request : Call) (hdraw : request.kind ≠ .drawing)
    (hcompile : ∀ key layout, request ≠ .compilePipeline key layout) (d : GpuDevice) :
    Quiet d (request.perform d).2 := by
  cases request with
  | compilePipeline key layout => exact absurd rfl (hcompile key layout)
  | compileDepthStencil key => exact .refl d
  | createLayout layout =>
    change Quiet d (createLayout layout d).2
    rw [createLayout]
    split <;> exact .refl d
  | createBuffer size label => exact d.quiet_createBuffer size label
  | releaseBuffer id => exact .refl d
  | writeBuffer id offset bytes => exact d.quiet_writeBuffer id offset bytes
  | copyBuffer source sourceOffset target targetOffset length =>
    exact d.quiet_copyBuffer source sourceOffset target targetOffset length
  | applyGeometry geometry thread => exact d.quiet_applyGeometry geometry
  | detachSurface thread => exact Quiet.mk (.refl _) rfl rfl rfl rfl id
  | resizeTargets width height => exact (d.quiet_resizeTargets width height).1
  | clear color => exact d.quiet_beginPass (some color)
  | encodeDraw config call => exact absurd rfl hdraw
  | submit => exact d.quiet_submit
  | present => exact d.quiet_present

end GpuDevice

end RenderBridge
