import RenderBridge.Proofs.Buffer.Allocator
import RenderBridge.Proofs.Context.Reason
import RenderBridge.Proofs.Gpu.Faithful
/-!
A graphics device is only asked for what it is ready for.

* `DeviceCause.IsMisuse`: the reasons that blame the call.
* `GpuDevice.Ready`, `GpuDevice.not_isMisuse`: a device with targets, and a call that suits it; **no
  such call is refused as a misuse**.
* `Op.apply_ready`, `Step.run_ready`: **operations make only such calls**, and so do runs.
* `Context.not_isMisuse_of_open`: opening a context is not refused as a misuse either.
-/

set_option autoImplicit false

namespace RenderBridge

/-- A reason that blames the call: a pipeline for other targets than the surface's, targets that are
not there or empty, or a draw without the buffers that it reads. -/
def DeviceCause.IsMisuse : DeviceCause → Bool
  | targetMismatch .. | targetsNotReady | emptyTargets .. | vertexBufferMissing
  | indexBufferMissing => true
  | _ => false

/-- A pipeline key for the color format and the sample count of a device. -/
structure PipelineKey.Fits (key : PipelineKey) (d : GpuDevice) : Prop where
  colorFormat : key.colorFormat = d.colorFormat
  sampleCount : key.sampleCount = d.sampleCount

/-- A template for the color format and the sample count of a device, by its key and in the
pipelines that are built from it. -/
structure PipelineTemplate.Fits (template : PipelineTemplate) (d : GpuDevice) : Prop where
  key : template.key.Fits d
  target : template.target.format = d.colorFormat
  multisample : template.multisample.count = d.sampleCount

/-! ### Templates -/

namespace PipelineTemplate

variable {key : PipelineKey} {layout : Option VertexLayout} {template : PipelineTemplate}

/-- Vertices are read exactly where there is a layout: no layout is empty. -/
lemma hasVertexInput_eq (h : PipelineTemplate.of key layout = .ok template) :
    template.hasVertexInput = layout.isSome := by
  rcases of_ok h with ⟨rfl, rfl⟩ | ⟨l, rfl, helements, rfl⟩
  · rfl
  · rw [hasVertexInput, build, VertexLayout.attributes]
    cases hcases : l.elements with
    | nil => exact absurd hcases helements
    | cons e es => rfl

/-- A template fits where its key does. -/
lemma fits_of_ok (h : PipelineTemplate.of key layout = .ok template) {d : GpuDevice}
    (hkey : key.Fits d) : template.Fits d := by
  rcases of_ok h with ⟨-, rfl⟩ | ⟨l, -, -, rfl⟩
  · exact ⟨hkey, hkey.colorFormat, hkey.sampleCount⟩
  · exact ⟨hkey, hkey.colorFormat, hkey.sampleCount⟩

lemma not_isMisuse_of_error {fault : DeviceFault}
    (h : PipelineTemplate.of key layout = .error fault) : ¬ fault.cause.IsMisuse := by
  cases layout with
  | none => cases h
  | some l =>
    rw [PipelineTemplate.of] at h
    split at h
    · cases h
    · rename_i hcheck
      cases h
      rw [checkPosition] at hcheck
      split at hcheck
      · split at hcheck <;> cases hcheck
        exact Bool.false_ne_true
      · cases hcheck
        exact Bool.false_ne_true

end PipelineTemplate

/-! ### Calls that a device is ready for -/

namespace GpuDevice

/-- A call that suits a device. Pipelines and templates fit it, a draw has vertices exactly where
its template reads them and indices where it is indexed, and new targets are not empty. -/
def Suits (d : GpuDevice) : Call → Prop
  | .compilePipeline key _ => key.Fits d
  | .encodeDraw config call =>
      config.pipeline.template.Fits d ∧
        (config.pipeline.template.hasVertexInput ↔ call.vertex.isSome) ∧
        (∀ count format, call.kind = .indexed count format → call.index.isSome)
  | .resizeTargets width height => 0 < width ∧ 0 < height
  | _ => True

/-- A device with targets, and a call that suits it. -/
structure Ready (d : GpuDevice) (request : Call) : Prop where
  targets : d.targets.isSome
  suits : d.Suits request

variable {d d' : GpuDevice} {fault : DeviceFault}

lemma realize_targets {p : GpuPipeline} {q : GpuDepthStencil} {answer : Except DeviceFault ℕ}
    (h : realize p q d = (answer, d')) : d'.targets = d.targets := by
  rcases realize_cases p q d with ⟨number, -, hcall⟩ | ⟨-, -, d₁, hcall, hbuilds, -⟩ |
      ⟨-, -, fault, d₁, hcall, hbuilds, -⟩
  · cases h.symm.trans hcall
    rfl
  · cases h.symm.trans hcall
    exact hbuilds.targets
  · cases h.symm.trans hcall
    exact hbuilds.targets

lemma not_isMisuse_of_realize {p : GpuPipeline} {q : GpuDepthStencil}
    (h : realize p q d = (.error fault, d')) : ¬ fault.cause.IsMisuse := by
  rw [realize] at h
  split at h
  · cases h
  · split at h <;> cases h
    exact Bool.false_ne_true

lemma not_isMisuse_of_compilePipeline {key : PipelineKey} {layout : Option VertexLayout}
    (hkey : key.Fits d) (h : compilePipeline key layout d = (.error fault, d')) :
    ¬ fault.cause.IsMisuse := by
  rcases compilePipeline_cases layout hkey.colorFormat hkey.sampleCount with
    ⟨fault', hrefused, hcall⟩ | ⟨template, answer, d₁, -, hrealize, hcall⟩
  · cases h.symm.trans hcall
    exact PipelineTemplate.not_isMisuse_of_error hrefused
  · rw [hcall] at h
    cases answer with
    | ok number => cases h
    | error fault' =>
      cases h
      exact not_isMisuse_of_realize hrealize

lemma not_isMisuse_of_checkAligned {offset length : ℕ}
    (h : checkAligned offset length = .error fault) : ¬ fault.cause.IsMisuse := by
  rw [checkAligned] at h
  split at h <;> cases h
  exact Bool.false_ne_true

lemma not_isMisuse_of_copyBuffer {source target : BufferId} {sourceOffset targetOffset length : ℕ}
    (h : copyBuffer source sourceOffset target targetOffset length d = (.error fault, d')) :
    ¬ fault.cause.IsMisuse := by
  rw [copyBuffer] at h
  split at h
  · rename_i hcheck
    cases h
    exact not_isMisuse_of_checkAligned hcheck
  · split at h
    · rename_i hcheck
      cases h
      exact not_isMisuse_of_checkAligned hcheck
    · cases h

/-! ### Passes -/

lemma not_isMisuse_of_acquire (h : acquire d = (.error fault, d')) : ¬ fault.cause.IsMisuse := by
  rw [acquire] at h
  split at h
  · cases h
    exact Bool.false_ne_true
  · split at h <;> cases h <;> exact Bool.false_ne_true

lemma not_isMisuse_of_ensureFrame (h : ensureFrame d = (.error fault, d')) :
    ¬ fault.cause.IsMisuse := by
  rw [ensureFrame] at h
  split at h
  · cases h
  · split at h
    · rename_i hcall
      cases h
      exact not_isMisuse_of_acquire hcall
    · cases h

/-- A pass is begun on the targets that are there. -/
lemma not_isMisuse_of_beginPass {color : Option Color} (htargets : d.targets.isSome)
    (h : beginPass color d = (.error fault, d')) : ¬ fault.cause.IsMisuse := by
  have hframe := d.quiet_ensureFrame
  rw [beginPass] at h
  split at h
  · rename_i hcall
    cases h
    exact not_isMisuse_of_ensureFrame hcall
  · rename_i d₁ hcall
    rw [hcall] at hframe
    obtain ⟨targets, hsome⟩ := Option.isSome_iff_exists.mp (hframe.targets htargets)
    dsimp only at hsome h
    rw [hsome] at h
    cases h

lemma not_isMisuse_of_drawEvents {P D : Type} {config : DrawConfig P D} {call : DrawCall}
    {targets : FrameTargets} {maxDimension : ℕ}
    (hindex : ∀ count format, call.kind = .indexed count format → call.index.isSome)
    (h : (drawEvents config call targets maxDimension).1 = .error fault) :
    ¬ fault.cause.IsMisuse := by
  rw [drawEvents] at h
  dsimp only at h
  split at h
  · cases h
    exact Bool.false_ne_true
  · split at h
    · cases h
    · rename_i hcall
      cases h
      rw [callEvents.eq_def] at hcall
      split at hcall
      · cases hcall
      · cases hcall
      · rename_i count format hkind hnone
        have hsome := hindex count format hkind
        rw [hnone] at hsome
        cases hsome

lemma not_isMisuse_of_encodePass {P D : Type} {config : DrawConfig P D} {call : DrawCall}
    {pipeline : ℕ} {targets : FrameTargets} (htargets : d.targets.isSome)
    (hindex : ∀ count format, call.kind = .indexed count format → call.index.isSome)
    (h : encodePass config call pipeline targets d = (.error fault, d')) :
    ¬ fault.cause.IsMisuse := by
  rw [encodePass] at h
  split at h
  · rename_i hcall
    cases h
    exact not_isMisuse_of_beginPass htargets hcall
  · dsimp only at h
    split at h
    · cases h
    · exact not_isMisuse_of_drawEvents hindex (congrArg Prod.fst h)

lemma not_isMisuse_of_encodeDraw {config : DrawConfig GpuPipeline GpuDepthStencil}
    {call : DrawCall} (hready : d.Ready (.encodeDraw config call))
    (h : encodeDraw config call d = (.error fault, d')) : ¬ fault.cause.IsMisuse := by
  obtain ⟨targets, hsome⟩ := Option.isSome_iff_exists.mp hready.targets
  obtain ⟨-, hvertex, hindex⟩ := hready.suits
  have hgiven : (config.pipeline.template.hasVertexInput && call.vertex.isNone) = false := by
    cases hinput : config.pipeline.template.hasVertexInput with
    | false => rfl
    | true =>
      rw [Bool.true_and, ← Option.not_isSome, hvertex.mp hinput]
      rfl
  rw [encodeDraw, hgiven, if_neg Bool.false_ne_true, hsome] at h
  dsimp only at h
  split at h
  · rename_i hrealize
    cases h
    exact not_isMisuse_of_realize hrealize
  · rename_i hrealize
    refine not_isMisuse_of_encodePass ?_ hindex h
    rw [realize_targets hrealize]
    exact hready.targets

/-- A call that a device is ready for is not refused as a misuse. -/
theorem not_isMisuse {request : Call} (hready : d.Ready request)
    (h : (request.perform d).1 = .error fault) : ¬ fault.cause.IsMisuse := by
  cases request with
  | compilePipeline key layout =>
    exact not_isMisuse_of_compilePipeline hready.suits (Prod.ext h rfl)
  | compileDepthStencil key => cases h
  | createLayout layout =>
    change (createLayout layout d).1 = _ at h
    rw [createLayout] at h
    split at h <;> cases h
    exact Bool.false_ne_true
  | createBuffer size label =>
    change (createBuffer size label d).1 = _ at h
    rw [createBuffer] at h
    dsimp only at h
    split at h <;> cases h
    exact Bool.false_ne_true
  | releaseBuffer id => cases h
  | writeBuffer id offset bytes =>
    change (writeBuffer id offset bytes d).1 = _ at h
    rw [writeBuffer] at h
    split at h
    · rename_i hcheck
      cases h
      exact not_isMisuse_of_checkAligned hcheck
    · cases h
  | copyBuffer source sourceOffset target targetOffset length =>
    exact not_isMisuse_of_copyBuffer (Prod.ext h rfl)
  | applyGeometry geometry thread => cases h
  | detachSurface thread => cases h
  | resizeTargets width height =>
    obtain ⟨hwidth, hheight⟩ := hready.suits
    change (resizeTargets width height d).1 = _ at h
    rw [resizeTargets, if_neg (by omega)] at h
    cases h
  | clear color => exact not_isMisuse_of_beginPass hready.targets (Prod.ext h rfl)
  | encodeDraw config call => exact not_isMisuse_of_encodeDraw hready (Prod.ext h rfl)
  | submit => cases h
  | present => cases h

end GpuDevice

/-! ### The calls of a context -/

/-- The device was ready for every call that was made to it. -/
def Traced.AllReady (t : TracedGpu) : Prop := ∀ e ∈ t.exchanges, e.before.Ready e.request

namespace Traced.AllReady

variable {t t' : TracedGpu}

lemma call (h : t.AllReady) {request : GpuDevice.Call} (hready : t.device.Ready request)
    {answer : Except DeviceFault request.Answer} (hcall : t.call request = (answer, t')) :
    t'.AllReady := by
  obtain rfl : (t.call request).2 = t' := congrArg Prod.snd hcall
  intro e he
  rcases List.mem_append.mp he with he | he
  · exact h e he
  · rw [List.mem_singleton.mp he]
    exact hready

/-- Calls of other kinds suit any device. -/
lemma keeps {kinds : List CallKind} (hcompile : .compiling ∉ kinds) (htargets : .targets ∉ kinds)
    (hdraw : .drawing ∉ kinds) :
    Keeps (fun t : TracedGpu => t.device.targets.isSome ∧ t.AllReady) kinds := by
  intro request hkind t ht
  obtain ⟨hsome, hall⟩ := ht
  have hsuits : t.device.Suits request := by
    cases request with
    | compilePipeline => exact absurd hkind hcompile
    | encodeDraw => exact absurd hkind hdraw
    | resizeTargets => exact absurd hkind htargets
    | _ => trivial
  have hquiet : t.device.Quiet (request.perform t.device).2 := by
    refine GpuDevice.quiet_perform request (fun heq => hdraw (heq ▸ hkind)) ?_ t.device
    rintro key layout rfl
    exact hcompile hkind
  rw [Traced.perform_eq_call]
  exact ⟨hquiet.targets hsome, hall.call ⟨hsome, hsuits⟩ rfl⟩

/-- A pipeline key is compiled where it fits the device. -/
lemma pipeline {cache cache' : Cache GpuPipeline GpuDepthStencil} {key : PipelineKey}
    {layout : Option VertexLayout} {answer : Except Fault GpuPipeline} (h : t.AllReady)
    (htargets : t.device.targets.isSome) (hkey : key.Fits t.device)
    (hcall : cache.pipeline key layout t = (answer, cache', t')) : t'.AllReady := by
  have hready : t.device.Ready (.compilePipeline key layout) := ⟨htargets, hkey⟩
  rcases cache.pipeline_cases key layout t with ⟨p, cache₁, -, hout, -, -⟩ |
      ⟨p, cache₁, t₁, -, hdevice, hout, -, -⟩ | ⟨reason, fault, cache₁, t₁, -, hdevice, hout, -, -⟩
  · cases hout.symm.trans hcall
    exact h
  · cases hout.symm.trans hcall
    exact h.call hready hdevice
  · cases hout.symm.trans hcall
    exact h.call hready hdevice

lemma depthStencil {cache cache' : Cache GpuPipeline GpuDepthStencil} {key : DepthStencilKey}
    {answer : Except Fault GpuDepthStencil} (h : t.AllReady) (htargets : t.device.targets.isSome)
    (hcall : cache.depthStencil key t = (answer, cache', t')) : t'.AllReady := by
  have hready : t.device.Ready (.compileDepthStencil key) := ⟨htargets, trivial⟩
  rcases cache.depthStencil_cases key t with ⟨p, cache₁, -, hout, -, -⟩ |
      ⟨p, cache₁, t₁, -, hdevice, hout, -, -⟩ | ⟨reason, fault, cache₁, t₁, -, hdevice, hout, -, -⟩
  · cases hout.symm.trans hcall
    exact h
  · cases hout.symm.trans hcall
    exact h.call hready hdevice
  · cases hout.symm.trans hcall
    exact h.call hready hdevice

end Traced.AllReady

/-- A key for the format and the samples of the configuration fits the device. -/
lemma Remembers.fits {config : Config} {log : List GpuEvent}
    {cache : Cache GpuPipeline GpuDepthStencil} {layouts : LayoutRegistry} {t : TracedGpu}
    (h : Remembers config log cache layouts t) (s : Snapshot) (topology : Topology)
    (handle : Option LayoutHandle) :
    (PipelineKey.of s ⟨config.colorFormat, config.effectiveSamples, topology, handle⟩).Fits
      t.device where
  colorFormat := h.colorFormat.symm
  sampleCount := (max_max_one config.sampleCount).trans h.sampleCount.symm

/-- A draw has a layout exactly where it has vertices. -/
lemma Context.HasInputs.isSome_layout {c : TracedGpuContext} {kind : DrawKind} {inputs : DrawInputs}
    (h : c.HasInputs kind inputs) : inputs.layout.isSome = inputs.vertex.isSome := by
  have hhandle := congrArg Option.isSome h.handle
  rw [Option.isSome_map, Option.isSome_map] at hhandle
  rw [hhandle, h.vertex_isSome]

namespace Context.Remembers

variable {config : Config} {log : List GpuEvent} {c : TracedGpuContext}

/-- The state of a draw is resolved by calls that the device is ready for. -/
lemma resolveDraw_ready (h : c.Remembers config log) (hall : c.device.AllReady)
    {topology : Topology} {kind : DrawKind} {inputs : DrawInputs}
    (hinputs : c.HasInputs kind inputs)
    {answer : Except Fault (DrawConfig GpuPipeline GpuDepthStencil)}
    {cache : Cache GpuPipeline GpuDepthStencil} {t : TracedGpu}
    (hcall : c.resolveDraw topology inputs = (answer, cache, t)) : t.AllReady := by
  rw [Context.resolveDraw, hinputs.native_eq, Context.drawTarget, Config.effectiveSamples,
    h.colorFormat, h.sampleCount] at hcall
  have hfits := h.device.fits c.tracker.snapshot topology (inputs.layout.map (·.1))
  have hmiddle : ∀ {answer cache t}, c.cache.pipeline
      (.of c.tracker.snapshot ⟨config.colorFormat, config.effectiveSamples, topology,
        inputs.layout.map (·.1)⟩) (c.layouts.native (inputs.layout.map (·.1))) c.device =
          (answer, cache, t) → t.device.targets.isSome ∧ t.AllReady := fun hp =>
    ⟨(h.device.pipeline (fun handle hhandle => hinputs.registered hhandle) rfl
      (max_max_one config.sampleCount) hp).1.targets, hall.pipeline h.device.targets hfits hp⟩
  rcases DrawConfig.resolve_cases c.tracker.snapshot
      ⟨config.colorFormat, config.effectiveSamples, topology, inputs.layout.map (·.1)⟩
      (c.layouts.native (inputs.layout.map (·.1))) c.cache c.device with
    ⟨fault, -, hout⟩ | ⟨fault, cache₁, t₁, hp, hout⟩ |
      ⟨p, fault, cache₁, t₁, cache₂, t₂, hp, hq, hout⟩ |
        ⟨p, q, cache₁, t₁, cache₂, t₂, hp, hq, hout⟩
  · cases hout.symm.trans hcall
    exact hall
  · cases hout.symm.trans hcall
    exact (hmiddle hp).2
  · cases hout.symm.trans hcall
    exact (hmiddle hp).2.depthStencil (hmiddle hp).1 hq
  · cases hout.symm.trans hcall
    exact (hmiddle hp).2.depthStencil (hmiddle hp).1 hq

/-- A draw that is resolved suits the device: its template is that of its key and of the bound
layout, which is there exactly where vertices are bound. -/
lemma ready_encodeDraw (h : c.Remembers config log) {topology : Topology} {kind : DrawKind}
    {inputs : DrawInputs} (hinputs : c.HasInputs kind inputs)
    {drawConfig : DrawConfig GpuPipeline GpuDepthStencil}
    {cache : Cache GpuPipeline GpuDepthStencil} {t : TracedGpu}
    (hcall : c.resolveDraw topology inputs = (.ok drawConfig, cache, t)) :
    t.device.Ready (.encodeDraw drawConfig ⟨kind, inputs.vertex, inputs.index⟩) := by
  obtain ⟨hresolved, -⟩ := h.resolveDraw hinputs hcall
  rw [Context.resolveDraw, Context.drawTarget, Config.effectiveSamples, h.colorFormat,
    h.sampleCount] at hcall
  obtain ⟨p, q, rfl, hp, -⟩ := DrawConfig.resolve_ok hcall
  have htemplate := (hresolved.memo.template _ p hp).of_eq
  have hvertex : p.template.hasVertexInput = inputs.vertex.isSome := by
    have hsome : (c.layouts.native (inputs.layout.map (·.1))).isSome = inputs.vertex.isSome := by
      rw [← hinputs.native_eq, Option.isSome_map, hinputs.isSome_layout]
    exact (PipelineTemplate.hasVertexInput_eq htemplate).trans hsome
  refine ⟨hresolved.targets, PipelineTemplate.fits_of_ok htemplate ?_, ?_, hinputs.indexed⟩
  · exact hresolved.fits c.tracker.snapshot topology (inputs.layout.map (·.1))
  · change p.template.hasVertexInput ↔ inputs.vertex.isSome
    rw [hvertex]

/-- A draw unit makes only calls that the device is ready for. -/
lemma drawUnit_ready (h : c.Remembers config log) (hall : c.device.AllReady) (topology : Topology)
    (kind : DrawKind) : (c.drawUnit topology kind).2.device.AllReady := by
  rcases c.drawUnit_cases topology kind with ⟨fault, -, hcall⟩ |
      ⟨inputs, fault, cache, t, hinputs, hresolve, hcall⟩ |
        ⟨inputs, drawConfig, cache, t, hinputs, hresolve, hcall⟩
  · rw [hcall]
    exact hall
  · rw [hcall]
    exact h.resolveDraw_ready hall (c.drawInputs_ok hinputs) hresolve
  · have hin := c.drawInputs_ok hinputs
    have hencoded := (h.resolveDraw_ready hall hin hresolve).call
      (h.ready_encodeDraw hin hresolve) rfl
    have htargets := (h.encodeDraw hin hresolve).1.targets
    rw [hcall, Context.submitUnit_snd]
    exact (FrameSerial.submit_keeps (Traced.AllReady.keeps (by simp) (by simp) (by simp))
      ⟨htargets, hencoded⟩ c.serial).2

/-- A resize asks for targets that are not empty. -/
lemma resize_ready (h : c.Remembers config log) (hall : c.device.AllReady) (width height : ℤ)
    (scale : Single) (fullscreen : Bool) :
    (c.resize width height scale fullscreen).2.device.AllReady := by
  rw [Context.resize]
  split
  · exact hall
  · rename_i hempty
    dsimp only
    split
    · exact hall
    · rename_i t hrun
      obtain ⟨thread, rfl⟩ : ∃ thread, t = (c.device.call (.applyGeometry
          ⟨width.toNat, height.toNat, effectiveScale scale, fullscreen⟩ thread)).2 := by
        cases hui : c.ui with
        | running name =>
          rw [hui] at hrun
          exact ⟨name, (Except.ok.inj hrun).symm⟩
        | stopped =>
          rw [hui] at hrun
          cases hrun
        | dropping =>
          rw [hui] at hrun
          cases hrun
      have happly : c.device.device.Ready (.applyGeometry
          ⟨width.toNat, height.toNat, effectiveScale scale, fullscreen⟩ thread) :=
        ⟨h.device.targets, trivial⟩
      have htargets := (GpuDevice.quiet_applyGeometry
        ⟨width.toNat, height.toNat, effectiveScale scale, fullscreen⟩ c.device.device).targets
          h.device.targets
      have hresize : GpuDevice.Ready (c.device.device.applyGeometry
          ⟨width.toNat, height.toNat, effectiveScale scale, fullscreen⟩)
          (.resizeTargets width.toNat height.toNat) := ⟨htargets, by omega, by omega⟩
      split
      · rename_i hcall
        exact (hall.call happly rfl).call hresize hcall
      · rename_i hcall
        exact (hall.call happly rfl).call hresize hcall

end Context.Remembers

/-! ### Operations and runs -/

section

variable {config : Config} {log : List GpuEvent}

/-- Every operation makes only calls that the device is ready for. -/
theorem Op.apply_ready (op : Op) {c : TracedGpuContext} (h : c.Remembers config log)
    (hall : c.device.AllReady) : (op.apply c).2.device.AllReady := by
  by_cases hdraw : .drawing ∈ op.calls
  · rcases op.draw_cases c hdraw with ⟨topology, kind, -, hcall⟩ | ⟨-, hsame⟩
    · rw [hcall, replyWith_snd]
      exact h.drawUnit_ready hall topology kind
    · rw [hsame]
      exact hall
  · by_cases htargets : .targets ∈ op.calls
    · cases op with
      | resize width height scale fullscreen =>
        rw [apply, replyWith_snd]
        exact h.resize_ready hall width height scale fullscreen
      | _ => simp [calls] at htargets
    · exact (op.apply_keeps
        (Traced.AllReady.keeps (compiling_not_mem hdraw) htargets hdraw) c
        ⟨h.device.targets, hall⟩).2

/-- Every run makes only calls that the device is ready for. -/
theorem Step.run_ready (steps : List (Step MachineAnswers)) {c : TracedGpuContext}
    (h : c.Remembers config log) (hall : c.device.AllReady) :
    (run steps c).Remembers config log ∧ (run steps c).device.AllReady := by
  refine run_induction
    (I := fun c : TracedGpuContext => c.Remembers config log ∧ c.device.AllReady) ?_ steps
    ⟨h, hall⟩
  rintro step c ⟨hc, hready⟩
  refine ⟨step.apply_remembers hc, ?_⟩
  cases step with
  | perform op => exact op.apply_ready hc hready
  | adjust answers => exact hready
  | setUi _ | setHost _ => exact hready

end

/-! ### Opening -/

lemma GpuDevice.not_isMisuse_of_openOn {config : Config} {init : GpuInit} {r r' : Recorder}
    {fault : DeviceFault} (h : openOn config init r = .error (fault, r')) :
    ¬ fault.cause.IsMisuse := by
  rw [openOn] at h
  split at h
  · cases h
    exact Bool.false_ne_true
  · dsimp only at h
    generalize (if config.debugFlags.labels then some "kiln device" else none) = label at h
    split at h
    · cases h
      exact Bool.false_ne_true
    · split at h
      · cases h
        exact Bool.false_ne_true
      · split at h
        · cases h
          exact Bool.false_ne_true
        · split at h
          · rename_i hcheck
            cases h
            rw [checkFormat] at hcheck
            split_ifs at hcheck <;> cases hcheck <;> exact Bool.false_ne_true
          · cases h

/-- Opening a context asks for targets that are not empty. -/
lemma Context.not_isMisuse_of_open {config : Config} {ui : UiThread} {script : GpuScript}
    {init : GpuInit} {world world' : Recorder} {fault : Fault}
    (h : (Context.openWith config ui (GpuDevice.factory script init) world :
      Except (Fault × Recorder) GpuContext) = .error (fault, world'))
    {cause : DeviceCause} (hcause : fault.deviceCause = some cause) : ¬ cause.IsMisuse := by
  rw [openWith] at h
  split at h
  · cases h
    cases hcause
  · rename_i hempty
    split at h
    · rename_i hrun
      cases h
      cases ui <;> cases hrun <;> cases hcause
    · rename_i hrun
      cases h
      obtain rfl := Option.some.inj hcause
      cases ui with
      | running name => exact GpuDevice.not_isMisuse_of_openOn (Except.ok.inj hrun)
      | stopped => cases hrun
      | dropping => cases hrun
    · split at h
      · cases h
      · rename_i hresize
        change GpuDevice.resizeTargets config.width.toNat config.height.toNat _ = _ at hresize
        rw [GpuDevice.resizeTargets, if_neg (by omega)] at hresize
        cases hresize

/-! ### No misuse -/

/-- **A context never misuses its graphics device.** Take any run of a context that was opened on a
graphics machine. At every call that it makes to the device the targets are there and the call suits
the device: pipelines are for its color format and its sample count, a draw has vertices exactly
where its template reads them, an indexed draw has indices, and new targets are not empty. So no
call is refused as a misuse, and neither an operation nor the opening fails for such a reason. -/
theorem device_never_misused (config : Config) (ui : UiThread) (script : GpuScript)
    (init : GpuInit) (world : Recorder) :
    (∀ fault world', (Context.openWith config ui (GpuDevice.factory script init) world :
        Except (Fault × Recorder) GpuContext) = .error (fault, world') →
      ∀ cause, fault.deviceCause = some cause → ¬ cause.IsMisuse) ∧
    ∀ c₀ : GpuContext, Context.openWith config ui (GpuDevice.factory script init) world = .ok c₀ →
      ∀ steps : List (Step MachineAnswers),
        (∀ e ∈ Step.trace steps c₀, e.before.Ready e.request ∧
          ∀ cause, e.RefusedFor cause → ¬ cause.IsMisuse) ∧
        ∀ op fault, (Op.apply op (Step.run steps c₀)).1 = .error fault →
          ∀ cause, fault.deviceCause = some cause → ¬ cause.IsMisuse := by
  refine ⟨fun fault world' h cause hcause => Context.not_isMisuse_of_open h hcause,
    fun c₀ hopen steps => ?_⟩
  have hnone : Traced.AllReady ⟨c₀.device, []⟩ := List.forall_mem_nil _
  obtain ⟨hremembers, hall⟩ := Step.run_ready steps (Context.remembers_of_open hopen) hnone
  rw [Step.run_traced, List.nil_append] at hremembers hall
  refine ⟨fun e he => ⟨hall e he, ?_⟩, fun op fault hfault cause hcause => ?_⟩
  · rintro cause ⟨fault, hrefused, rfl⟩
    exact GpuDevice.not_isMisuse (hall e he) hrefused
  · obtain ⟨e, he, fault, hrefused, rfl⟩ := op.refused_of_deviceCause _ hfault hcause
    have hafter := op.apply_ready hremembers hall
    rw [Op.apply_traced] at hafter
    exact GpuDevice.not_isMisuse (hafter e (List.mem_append_right _ he)) hrefused

/-- The handle of the layout that is registered first. -/
def LayoutHandle.first : LayoutHandle := ⟨1, BufferHandle.first.ne_zero⟩

/-- Draws with bound vertices: the first has its pipeline rejected, the second gets no texture, the
third is on new targets, and before the last the vertices end. -/
def unboundRun : List (Step MachineAnswers) := [.perform (.createBuffer 0 36 none),
  .perform (.registerLayout 12 1 (packAttributes [⟨0, 0, 0x1406, 3, 0, 0, 0⟩])),
  .perform (.bindVertex .first .first),
  .adjust { acquire := [.lost], pipelineErrors := [some "no"] },
  .perform (.draw Token.triangles 0 3), .perform (.draw Token.triangles 0 3),
  .perform (.resize 20 10 .one false), .perform (.draw Token.triangles 0 3),
  .perform (.destroyBuffer .first), .perform (.draw Token.triangles 0 3)]

/-- Of the draws that reach the device the first two read vertices, which they have, and the last
one reads none; the first of them is refused for the lost surface. -/
theorem device_never_misused_unboundRun :
    ∃ c : GpuContext,
      Context.openWith {} (.running "main") (GpuDevice.factory {} {}) {} = .ok c ∧
      ((Step.trace unboundRun c).filterMap fun e => match e.request with
        | .encodeDraw config call =>
          some (config.pipeline.template.hasVertexInput, call.vertex.isSome, e.accepted)
        | _ => none) = [(true, true, false), (true, true, true), (false, false, true)] ∧
      (∀ e ∈ Step.trace unboundRun c, e.before.Ready e.request) := by
  have hdraws : (Context.openWith {} (.running "main") (GpuDevice.factory {} {})
      {}).toOption.map (fun c : GpuContext =>
        (Step.trace unboundRun c).filterMap fun e => match e.request with
          | .encodeDraw config call =>
            some (config.pipeline.template.hasVertexInput, call.vertex.isSome, e.accepted)
          | _ => none) = some [(true, true, false), (true, true, true), (false, false, true)] := by
    decide +kernel
  obtain ⟨c, hopen⟩ : ∃ c : GpuContext,
      Context.openWith {} (.running "main") (GpuDevice.factory {} {}) {} = .ok c := ⟨_, rfl⟩
  rw [hopen] at hdraws
  obtain ⟨-, hruns⟩ := device_never_misused {} (.running "main") {} {} {}
  exact ⟨c, hopen, Option.some.inj hdraws, fun e he => ((hruns c hopen unboundRun).1 e he).1⟩

end RenderBridge
