import RenderBridge.Gpu.Opening
import RenderBridge.Proofs.Context.Draw
import RenderBridge.Proofs.Gpu.Realize
/-!
Draws on a graphics device have the pipeline that the state at the draw says, wherever it is from.

* `Context.Remembers`: a context agrees with the ledger of its graphics device.
* `Op.apply_remembers`, `Step.run_remembers`: **every operation keeps this**, and so does every run;
  what an operation draws, it draws with the pipeline written down from the render state.
* `Context.remembers_of_open`: it holds when a context is opened.
-/

set_option autoImplicit false

namespace RenderBridge

variable {config : Config} {log : List GpuEvent}

/-- A context on a graphics device. -/
abbrev GpuContext := Context GpuDevice GpuPipeline GpuDepthStencil

/-- A context on a traced graphics device. -/
abbrev TracedGpuContext := Context TracedGpu GpuPipeline GpuDepthStencil

/-- The layout bound with the vertices, as it was registered. -/
def Context.boundVertexLayout {δ P D : Type} (c : Context δ P D) : Option VertexLayout :=
  c.bindings.vertex.bind fun bound => (c.layouts.records.get? bound.2).map (·.layout)

/-- A context agrees with all that its graphics device has built and called. -/
structure Context.Remembers (config : Config) (log : List GpuEvent) (c : TracedGpuContext) :
    Prop where
  device : RenderBridge.Remembers config log c.cache c.layouts c.device
  colorFormat : c.config.colorFormat = config.colorFormat
  sampleCount : c.config.sampleCount = config.sampleCount
  issued : c.layouts.Issued

/-! ### Draws -/

namespace Context.HasInputs

variable {c : TracedGpuContext} {kind : DrawKind} {inputs : DrawInputs}

/-- The layout of the vertices is registered. -/
lemma registered (h : c.HasInputs kind inputs) {handle : LayoutHandle}
    (hhandle : inputs.layout.map (·.1) = some handle) :
    (c.layouts.records.get? handle).isSome := by
  obtain ⟨⟨handle', native⟩, hlayout, rfl⟩ := Option.map_eq_some_iff.mp hhandle
  obtain ⟨record, hrecord, -⟩ := h.native handle' native hlayout
  rw [hrecord]
  rfl

/-- The layout that a draw is resolved with is the one registered under the handle. -/
lemma native_eq (h : c.HasInputs kind inputs) :
    inputs.layout.map (·.2) = c.layouts.native (inputs.layout.map (·.1)) := by
  cases hlayout : inputs.layout with
  | none => rfl
  | some bound =>
    obtain ⟨handle, native⟩ := bound
    obtain ⟨record, hrecord, rfl⟩ := h.native handle native hlayout
    simp only [Option.map_some, LayoutRegistry.native, Option.bind_some, hrecord]

/-- The layout that a draw is resolved with is the bound one. -/
lemma boundVertexLayout_eq (h : c.HasInputs kind inputs) (hissued : c.layouts.Issued) :
    c.layouts.native (inputs.layout.map (·.1)) = c.boundVertexLayout := by
  rw [h.handle, Context.boundVertexLayout, LayoutRegistry.native]
  cases c.bindings.vertex with
  | none => rfl
  | some bound =>
    rw [Option.map_some, Option.bind_some, Option.bind_some]
    cases hrecord : c.layouts.records.get? bound.2 with
    | none => rfl
    | some record =>
      rw [Option.map_some, Option.map_some, hissued.native_eq bound.2 record hrecord]

end Context.HasInputs

namespace Context.Remembers

variable {c : TracedGpuContext}

/-- Resolving the state of a draw keeps what is remembered. -/
lemma resolveDraw (h : c.Remembers config log) {topology : Topology} {kind : DrawKind}
    {inputs : DrawInputs} (hinputs : c.HasInputs kind inputs)
    {answer : Except Fault (DrawConfig GpuPipeline GpuDepthStencil)}
    {cache : Cache GpuPipeline GpuDepthStencil} {t : TracedGpu}
    (hcall : c.resolveDraw topology inputs = (answer, cache, t)) :
    RenderBridge.Remembers config log cache c.layouts t ∧ c.device.DrawsNothing t := by
  rw [Context.resolveDraw, hinputs.native_eq, Context.drawTarget, Config.effectiveSamples,
    h.colorFormat, h.sampleCount] at hcall
  exact h.device.resolve (fun handle hhandle => hinputs.registered hhandle) hcall

/-- A draw that is resolved draws with the pipeline of the render state. -/
lemma encodeDraw (h : c.Remembers config log) {topology : Topology} {kind : DrawKind}
    {inputs : DrawInputs} (hinputs : c.HasInputs kind inputs)
    {drawConfig : DrawConfig GpuPipeline GpuDepthStencil}
    {cache : Cache GpuPipeline GpuDepthStencil} {t : TracedGpu}
    (hcall : c.resolveDraw topology inputs = (.ok drawConfig, cache, t)) :
    RenderBridge.Remembers config log cache c.layouts
        (Device.encodeDraw drawConfig ⟨kind, inputs.vertex, inputs.index⟩ t).2 ∧
      ∃ events,
        (Traced.ledger
          (Device.encodeDraw drawConfig ⟨kind, inputs.vertex, inputs.index⟩ t).2).events =
            t.ledger.events ++ events ∧
        DrawsWith t.ledger.events events
          (c.tracker.snapshot.pipeline config topology c.boundVertexLayout) := by
  obtain ⟨hresolved, -⟩ := h.resolveDraw hinputs hcall
  rw [Context.resolveDraw, Context.drawTarget, Config.effectiveSamples, h.colorFormat,
    h.sampleCount] at hcall
  obtain ⟨p, q, rfl, hp, hq⟩ := DrawConfig.resolve_ok hcall
  have htemplate := (hresolved.memo.template _ p hp).of_eq
  have hdescribe : p.template.describe (.of (DepthStencilKey.of c.tracker.snapshot)) =
      c.tracker.snapshot.pipeline config topology
        (c.layouts.native (inputs.layout.map (·.1))) := PipelineTemplate.describe_of htemplate
  have hvertex : p.template.hasVertexInput → inputs.vertex.isSome := by
    intro hinput
    have hsome := PipelineTemplate.isSome_of_hasVertexInput htemplate hinput
    rw [hinputs.vertex_isSome, ← Option.isSome_map, ← hinputs.handle]
    cases hhandle : inputs.layout.map (·.1) with
    | some handle => rfl
    | none =>
      change (c.layouts.native (inputs.layout.map (·.1))).isSome at hsome
      rw [hhandle] at hsome
      cases hsome
  obtain ⟨hafter, events, hevents, hdraws⟩ :=
    hresolved.encodeDraw hp hq ⟨kind, inputs.vertex, inputs.index⟩ hvertex
  refine ⟨hafter, events, hevents, ?_⟩
  rw [← hinputs.boundVertexLayout_eq h.issued, ← hdescribe]
  exact hdraws

/-- A draw unit draws with the pipeline of the render state. -/
lemma drawUnit (h : c.Remembers config log) (topology : Topology) (kind : DrawKind) :
    (c.drawUnit topology kind).2.Remembers config log ∧
      ∃ events, (c.drawUnit topology kind).2.device.ledger.events =
          c.device.ledger.events ++ events ∧
        DrawsWith c.device.ledger.events events
          (c.tracker.snapshot.pipeline config topology c.boundVertexLayout) := by
  rcases c.drawUnit_cases topology kind with ⟨fault, -, hcall⟩ |
      ⟨inputs, fault, cache, t, hinputs, hresolve, hcall⟩ |
        ⟨inputs, drawConfig, cache, t, hinputs, hresolve, hcall⟩
  · rw [hcall]
    exact ⟨h, [], (List.append_nil _).symm, .of_not_isDraw (List.forall_mem_nil _)⟩
  · obtain ⟨hresolved, events, hevents, hundrawn⟩ :=
      h.resolveDraw (c.drawInputs_ok hinputs) hresolve
    rw [hcall]
    exact ⟨⟨hresolved, h.colorFormat, h.sampleCount, h.issued⟩, events, hevents,
      .of_not_isDraw hundrawn⟩
  · have hin := c.drawInputs_ok hinputs
    obtain ⟨-, first, hfirst, hundrawn⟩ := h.resolveDraw hin hresolve
    obtain ⟨hencoded, events, hevents, hdraws⟩ := h.encodeDraw hin hresolve
    -- What is submitted afterwards draws nothing.
    obtain ⟨hsubmitted, rest, hrest, hundrawn'⟩ := FrameSerial.submit_keeps
      (Remembers.keeps config log cache c.layouts _ (by simp) (by simp)) ⟨hencoded, .refl _⟩
      c.serial
    rw [hcall, Context.submitUnit_snd]
    refine ⟨⟨hsubmitted, h.colorFormat, h.sampleCount, h.issued⟩, first ++ events ++ rest, ?_, ?_⟩
    · rw [hrest, hevents, hfirst, List.append_assoc, List.append_assoc, List.append_assoc]
    · rw [hfirst] at hdraws
      exact (hdraws.prepend hundrawn).append hundrawn'

end Context.Remembers

/-! ### Operations and runs -/

/-- A graphics device takes layouts as they are. -/
lemma TracedGpu.createLayout_ok {layout native : VertexLayout} {t t' : TracedGpu}
    (h : Device.createLayout layout t = (.ok native, t')) : native = layout := by
  have hanswer : (GpuDevice.createLayout layout t.device).1 = .ok native := congrArg Prod.fst h
  rw [GpuDevice.createLayout] at hanswer
  split at hanswer
  · cases hanswer
  · exact (Except.ok.inj hanswer).symm

/-- Every operation keeps what is remembered. What it draws, it draws with the pipeline of the
render state. -/
theorem Op.apply_remembers (op : Op) {c : TracedGpuContext} (h : c.Remembers config log) :
    (op.apply c).2.Remembers config log ∧
      ∃ events, (op.apply c).2.device.ledger.events = c.device.ledger.events ++ events ∧
        ((∀ e ∈ events, ¬ e.IsDraw) ∨ ∃ topology kind, op.Draws topology kind ∧
          DrawsWith c.device.ledger.events events
            (c.tracker.snapshot.pipeline config topology c.boundVertexLayout)) := by
  by_cases hdraw : .drawing ∈ op.calls
  · rcases op.draw_cases c hdraw with ⟨topology, kind, hdraws, hcall⟩ | ⟨-, hsame⟩
    · obtain ⟨hafter, events, hevents, hwith⟩ := h.drawUnit topology kind
      rw [hcall, replyWith_snd]
      exact ⟨hafter, events, hevents, .inr ⟨topology, kind, hdraws, hwith⟩⟩
    · rw [hsame]
      exact ⟨h, [], (List.append_nil _).symm, .inl (List.forall_mem_nil _)⟩
  · have hcompile := compiling_not_mem hdraw
    have hchanges := op.changes_apply c
    obtain ⟨hdevice, events, hevents, hundrawn⟩ := op.apply_keeps
      (Remembers.keeps config log c.cache c.layouts c.device hcompile hdraw) c ⟨h.device, .refl _⟩
    have hlayouts : c.layouts.Extends (op.apply c).2.layouts ∧ (op.apply c).2.layouts.Issued := by
      by_cases hk : .layouts ∈ op.calls
      · cases op with
        | registerLayout stride count packed =>
          rw [apply, replyWith_snd, Context.registerLayout]
          exact h.issued.register stride count packed
            fun _ _ _ hcall => TracedGpu.createLayout_ok hcall
        | _ => simp [calls] at hk
      · rw [hchanges.layouts_eq hk]
        exact ⟨.refl _, h.issued⟩
    refine ⟨⟨?_, hchanges.colorFormat_eq.trans h.colorFormat,
      hchanges.sampleCount_eq.trans h.sampleCount, hlayouts.2⟩, events, hevents, .inl hundrawn⟩
    rw [hchanges.cache_eq hcompile]
    exact { hdevice with memo := hdevice.memo.relayout hlayouts.1 }

/-- What an operation draws, it draws with the pipeline of the render state. -/
lemma Op.draws_exchanges (op : Op) {c : GpuContext} {es : List GpuExchange}
    (h : (c.traced es).Remembers config log) :
    (∀ e ∈ (op.exchanges c).flatMap (·.events), ¬ e.IsDraw) ∨
      ∃ topology kind, op.Draws topology kind ∧
        DrawsWith (es.flatMap (·.events)) ((op.exchanges c).flatMap (·.events))
          (c.tracker.snapshot.pipeline config topology c.boundVertexLayout) := by
  obtain ⟨-, events, hgrow, hcases⟩ := op.apply_remembers h
  rw [apply_traced] at hgrow
  have hsame : events = (op.exchanges c).flatMap (·.events) := by
    refine List.append_cancel_left (hgrow.symm.trans ?_)
    exact List.flatMap_append
  rw [← hsame]
  exact hcases

namespace Step

/-- Every step keeps what is remembered. -/
lemma apply_remembers (step : Step MachineAnswers) {c : TracedGpuContext}
    (h : c.Remembers config log) : (step.apply c).Remembers config log := by
  cases step with
  | perform op => exact (op.apply_remembers h).1
  | adjust answers =>
    obtain ⟨⟨hmemo, hneeded, hlog, hformat, hsamples, htargets⟩, hcolor, hcount, hissued⟩ := h
    exact ⟨⟨hmemo, hneeded, hlog, hformat, hsamples, htargets⟩, hcolor, hcount, hissued⟩
  | setUi _ | setHost _ =>
    obtain ⟨hdevice, hcolor, hcount, hissued⟩ := h
    exact ⟨hdevice, hcolor, hcount, hissued⟩

/-- Every run keeps what is remembered. -/
theorem run_remembers (steps : List (Step MachineAnswers)) {c : TracedGpuContext}
    (h : c.Remembers config log) : (run steps c).Remembers config log :=
  run_induction (I := fun c : TracedGpuContext => c.Remembers config log)
    (fun step _ hc => step.apply_remembers hc) steps h

end Step

/-! ### Opening -/

/-- A device that is opened has no pipelines, and fits the configuration. -/
lemma GpuDevice.openOn_ok {init : GpuInit} {r : Recorder} {d : GpuDevice}
    (h : openOn config init r = .ok d) : ∃ r', d = assemble config init r' := by
  rw [openOn] at h
  split at h
  · cases h
  · dsimp only at h
    generalize (if config.debugFlags.labels then some "kiln device" else none) = label at h
    split at h
    · cases h
    · split at h
      · cases h
      · split at h
        · cases h
        · split at h
          · cases h
          · exact ⟨_, (Except.ok.inj h).symm⟩

/-- A context that is opened has a new device with its first targets. -/
lemma Context.device_of_open {ui : UiThread} {script : GpuScript} {init : GpuInit}
    {world : Recorder} {c : GpuContext}
    (h : Context.openWith config ui (GpuDevice.factory script init) world = .ok c) :
    ∃ r d, GpuDevice.resizeTargets config.width.toNat config.height.toNat
        (GpuDevice.assemble config init r) = (.ok (), d) ∧ c = .ofDevice config ui d := by
  obtain ⟨-, -, d, d', hbuild, hresize, rfl⟩ := openWith_ok h
  obtain ⟨r, rfl⟩ := GpuDevice.openOn_ok hbuild
  exact ⟨r, d', hresize, rfl⟩

/-- A context that is opened agrees with its device, from the calls made so far on. -/
lemma Context.remembers_of_open {ui : UiThread} {script : GpuScript} {init : GpuInit}
    {world : Recorder} {c : GpuContext}
    (h : Context.openWith config ui (GpuDevice.factory script init) world = .ok c) :
    (c.traced []).Remembers config c.device.recorder.log := by
  obtain ⟨r, d, hresize, rfl⟩ := device_of_open h
  obtain ⟨hquiet, htargets⟩ := GpuDevice.quiet_resizeTargets config.width.toNat
    config.height.toNat (GpuDevice.assemble config init r)
  rw [hresize] at hquiet htargets
  have hmemo : Memo {} {} ⟨d.templates, d.variants, d.recorder.pipelines, [], []⟩ := by
    have hvariants : d.variants = {} := hquiet.variants
    rw [hvariants]
    exact .empty {} d.templates d.recorder.pipelines
  exact ⟨⟨hmemo, .nil, (List.append_nil _).symm, hquiet.colorFormat, hquiet.sampleCount,
    htargets rfl⟩, rfl, rfl, .empty⟩

/-! ### Faithful pipelines -/

/-- **Draws have the pipeline of the render state, and remembering pipelines is invisible.** Take
any run of a context that was opened on a graphics machine, whatever pipelines the machine rejects.
Every call that draws has a pipeline in force in its pass that was created as the render state, the
mode, the configuration and the bound layout at that draw say. For each pair of keys a pipeline is
accepted at most once. A rejected one is never set and never remembered, and pipelines are built as
they are needed: again after a rejection, and not again after one was accepted. -/
theorem pipelines_faithful {config : Config} {ui : UiThread} {script : GpuScript} {init : GpuInit}
    {world : Recorder} {c₀ : GpuContext}
    (hopen : Context.openWith config ui (GpuDevice.factory script init) world = .ok c₀)
    (steps : List (Step MachineAnswers)) :
    let c := Step.run steps c₀
    let calls := Step.trace steps c₀
    let events := calls.flatMap (·.events)
    let builds := calls.flatMap (·.builds)
    c.device.recorder.log = c₀.device.recorder.log ++ events ∧
    (∀ (step : Step MachineAnswers) before e after,
      (step.exchanges c).flatMap (·.events) = before ++ e :: after → e.IsDraw →
        ∃ op topology kind number label, step = .perform op ∧ op.Draws topology kind ∧
          pipelineInPass before = some number ∧
          .createPipeline number label
            (c.tracker.snapshot.pipeline config topology c.boundVertexLayout) ∈ events ++ before) ∧
    (builds.map (·.number)).Nodup ∧
    (∀ number description, (∃ label, .createPipeline number label description ∈ events) ↔
      ∃ b ∈ builds, b.number = number ∧ b.description = description) ∧
    (acceptedPairs builds).Nodup ∧
    (∀ b ∈ builds, ¬ b.accepted →
      .setPipeline b.number ∉ events ∧ ∀ pair, c.device.variants.get? pair ≠ some b.number) ∧
    BuiltAsNeeded calls := by
  intro c calls events builds
  have hremembers : (c.traced calls).Remembers config c₀.device.recorder.log := by
    have hrun := Step.run_remembers steps (Context.remembers_of_open hopen)
    rw [Step.run_traced, List.nil_append] at hrun
    exact hrun
  have hmemo := hremembers.device.memo
  refine ⟨hremembers.device.log_eq, fun step before e after hevents hdraw => ?_, hmemo.numbers,
    fun number description => ⟨?_, ?_⟩, hmemo.nodup, fun b hb hrejected => ⟨?_, ?_⟩,
    hremembers.device.asNeeded⟩
  · have hmem : e ∈ (step.exchanges c).flatMap (·.events) := by
      rw [hevents]
      exact List.mem_append_right _ List.mem_cons_self
    cases step with
    | perform op =>
      rcases op.draws_exchanges hremembers with hundrawn | ⟨topology, kind, hdraws, hwith⟩
      · exact absurd hdraw (hundrawn e hmem)
      · obtain ⟨number, label, hforce, hcreated⟩ := hwith before e after hevents hdraw
        exact ⟨op, topology, kind, number, label, rfl, hdraws, hforce, hcreated⟩
    | adjust answers => cases hmem
    | setUi _ | setHost _ => cases hmem
  · rintro ⟨label, hmem⟩
    exact hmemo.created number label description hmem
  · rintro ⟨b, hb, rfl, rfl⟩
    exact hmemo.listed b hb
  · intro hset
    obtain ⟨b', hb', haccepted, hsame⟩ := hmemo.set b.number hset
    rw [hmemo.build_unique hb' hb hsame] at haccepted
    exact hrejected haccepted
  · rintro ⟨id, dkey⟩ hvariant
    obtain ⟨key, p, -, -, hbuild⟩ := hmemo.kept id dkey b.number hvariant
    rw [← hmemo.build_unique hbuild hb rfl] at hrejected
    exact hrejected rfl

/-- Three draws in one state, of which the first has its pipeline rejected. -/
def rejectedRun : List (Step MachineAnswers) := [.adjust { pipelineErrors := [some "no"] },
  .perform (.draw Token.triangles 0 3), .perform (.draw Token.triangles 0 3),
  .perform (.draw Token.triangles 3 3)]

/-- The second draw builds the pipeline again, and the third one has it. -/
theorem pipelines_faithful_rejectedRun :
    ∃ c : GpuContext,
      Context.openWith {} (.running "main") (GpuDevice.factory {} {}) {} = .ok c ∧
      ((Step.trace rejectedRun c).flatMap (·.builds)).map (·.accepted) = [false, true] ∧
      (acceptedPairs ((Step.trace rejectedRun c).flatMap (·.builds))).Nodup ∧
      BuiltAsNeeded (Step.trace rejectedRun c) := by
  have hbuilds : (Context.openWith {} (.running "main") (GpuDevice.factory {} {})
      {}).toOption.map (fun c : GpuContext =>
        ((Step.trace rejectedRun c).flatMap (·.builds)).map (·.accepted)) =
      some [false, true] := by decide +kernel
  obtain ⟨c, hopen⟩ : ∃ c : GpuContext,
      Context.openWith {} (.running "main") (GpuDevice.factory {} {}) {} = .ok c := ⟨_, rfl⟩
  rw [hopen] at hbuilds
  obtain ⟨-, -, -, -, hnodup, -, hneeded⟩ := pipelines_faithful hopen rejectedRun
  exact ⟨c, hopen, Option.some.inj hbuilds, hnodup, hneeded⟩

end RenderBridge
