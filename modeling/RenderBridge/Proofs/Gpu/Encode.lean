import RenderBridge.Proofs.Gpu.Quiet
/-!
What compiling and drawing do on a graphics device.

* `DrawsWith`: calls that draw with pipelines of one description in force.
* `GpuDevice.Builds`, `GpuDevice.realize_cases`: the pipeline for a template and a depth-stencil
  object is there, or is built, or is rejected.
* `pipelineInPass`: the pipeline in force after some calls.
* `DrawsOnlyWith`: calls that set one pipeline only, and draw with it in force.
* `GpuDevice.Encoded`, `GpuDevice.encodeDraw_cases`: **what a draw records** draws only with the
  pipeline that was realized for it.
-/

set_option autoImplicit false

namespace RenderBridge

/-! ### Passes -/

/-- The pipeline in force after a call, if one was in force before. A pass begins without one. -/
def GpuEvent.inForce (pipeline : Option ℕ) : GpuEvent → Option ℕ
  | beginPass .. => none
  | setPipeline number => some number
  | _ => pipeline

/-- The pipeline in force in the pass that some calls end in. -/
def pipelineInPass (events : List GpuEvent) : Option ℕ := events.foldl GpuEvent.inForce none

/-- A call inside a pass that leaves the pipeline in force. -/
def GpuEvent.IsInPass : GpuEvent → Bool
  | createPipeline .. | setPipeline _ | beginPass .. => false
  | _ => true

/-- A call that a pass consists of, once its pipeline is set. -/
def GpuEvent.IsPassCall : GpuEvent → Bool
  | setScissor .. | setViewport _ | setStencilReference _ | setVertexBuffer .. | setIndexBuffer ..
  | draw .. | drawIndexed .. => true
  | _ => false

lemma GpuEvent.isInPass_of_isPassCall {e : GpuEvent} (h : e.IsPassCall) : e.IsInPass := by
  cases e with
  | createPipeline => cases h
  | setPipeline => cases h
  | beginPass => cases h
  | _ => rfl

/-- A call that draws. -/
def GpuEvent.IsDraw : GpuEvent → Bool
  | draw .. | drawIndexed .. => true
  | _ => false

/-- A pipeline stays in force until the next is set. -/
lemma pipelineInPass_append (events : List GpuEvent) (number : ℕ) {rest : List GpuEvent}
    (hrest : ∀ e ∈ rest, e.IsInPass) :
    pipelineInPass (events ++ .setPipeline number :: rest) = some number := by
  have hstays : ∀ rest : List GpuEvent, (∀ e ∈ rest, e.IsInPass) →
      rest.foldl GpuEvent.inForce (some number) = some number := by
    intro rest hrest
    induction rest with
    | nil => rfl
    | cons e rest ih =>
      have he : e.inForce (some number) = some number := by
        have hpass := hrest e List.mem_cons_self
        cases e with
        | setPipeline => cases hpass
        | beginPass => cases hpass
        | _ => rfl
      rw [List.foldl_cons, he]
      exact ih fun e he => hrest e (List.mem_cons_of_mem _ he)
  rw [pipelineInPass, List.foldl_append, List.foldl_cons]
  exact hstays rest hrest

/-- Calls before a pass do not matter for the pipeline that is set in it. -/
lemma pipelineInPass_append_of_some (before : List GpuEvent) {events : List GpuEvent} {number : ℕ}
    (h : pipelineInPass events = some number) :
    pipelineInPass (before ++ events) = some number := by
  have hany : ∀ (events : List GpuEvent) (pipeline : Option ℕ),
      events.foldl GpuEvent.inForce none = some number →
        events.foldl GpuEvent.inForce pipeline = some number := by
    intro events
    induction events with
    | nil =>
      intro pipeline hnone
      cases hnone
    | cons e events ih =>
      intro pipeline hset
      cases e with
      | beginPass => exact hset
      | setPipeline => exact hset
      | _ => exact ih pipeline hset
  rw [pipelineInPass, List.foldl_append]
  exact hany events _ h

lemma GpuEvent.not_isDraw_of_isQuiet {e : GpuEvent} (h : e.IsQuiet) : ¬ e.IsDraw := by
  cases e with
  | draw => cases h
  | drawIndexed => cases h
  | _ => exact Bool.false_ne_true

/-- An element of two lists in a row is in the first or in the second. -/
lemma append_eq_append_cons {α : Type} {xs ys before after : List α} {x : α}
    (h : xs ++ ys = before ++ x :: after) :
    (∃ middle, xs = before ++ x :: middle ∧ after = middle ++ ys) ∨
      ∃ middle, before = xs ++ middle ∧ ys = middle ++ x :: after := by
  rcases List.append_eq_append_iff.mp h with ⟨middle, rfl, hcons⟩ | ⟨middle, rfl, hcons⟩
  · exact .inr ⟨middle, rfl, hcons⟩
  · cases middle with
    | nil => exact .inr ⟨[], by simp, hcons.symm⟩
    | cons x' middle =>
      obtain ⟨rfl, rfl⟩ := List.cons.inj hcons
      exact .inl ⟨middle, rfl, rfl⟩

/-- Calls that build no pipeline, set one only, and draw with that one in force. -/
structure DrawsOnlyWith (events : List GpuEvent) (pipeline : ℕ) : Prop where
  unbuilt : ∀ number label description, GpuEvent.createPipeline number label description ∉ events
  set_eq : ∀ number, .setPipeline number ∈ events → number = pipeline
  inForce : ∀ before e after, events = before ++ e :: after → e.IsDraw →
    pipelineInPass before = some pipeline

namespace DrawsOnlyWith

variable {events rest : List GpuEvent} {pipeline : ℕ}

lemma of_quiet (h : ∀ e ∈ events, e.IsQuiet) : DrawsOnlyWith events pipeline where
  unbuilt number label description hmem := by cases h _ hmem
  set_eq number hmem := by cases h _ hmem
  inForce before e after heq hdraw := by
    have hmem : e ∈ events := by
      rw [heq]
      exact List.mem_append_right _ List.mem_cons_self
    exact absurd hdraw (GpuEvent.not_isDraw_of_isQuiet (h e hmem))

/-- Quiet calls, then the pipeline is set, and the pass goes on. -/
lemma of_set (h : ∀ e ∈ events, e.IsQuiet) (hrest : ∀ e ∈ rest, e.IsInPass) :
    DrawsOnlyWith (events ++ .setPipeline pipeline :: rest) pipeline where
  unbuilt number label description hmem := by
    rcases List.mem_append.mp hmem with hmem | hmem
    · cases h _ hmem
    · rcases List.mem_cons.mp hmem with heq | hmem
      · cases heq
      · cases hrest _ hmem
  set_eq number hmem := by
    rcases List.mem_append.mp hmem with hmem | hmem
    · cases h _ hmem
    · rcases List.mem_cons.mp hmem with heq | hmem
      · exact GpuEvent.setPipeline.inj heq
      · cases hrest _ hmem
  inForce before e after heq hdraw := by
    -- A call that draws is among those after the pipeline is set.
    rcases append_eq_append_cons heq with ⟨middle, rfl, -⟩ | ⟨middle, rfl, hcons⟩
    · exact absurd hdraw (GpuEvent.not_isDraw_of_isQuiet
        (h e (List.mem_append_right _ List.mem_cons_self)))
    · cases middle with
      | nil =>
        obtain ⟨rfl, -⟩ := List.cons.inj hcons
        cases hdraw
      | cons e' middle =>
        obtain ⟨rfl, rfl⟩ := List.cons.inj hcons
        exact pipelineInPass_append events pipeline fun e he =>
          hrest e (List.mem_append_left _ he)

end DrawsOnlyWith

/-- Every call that draws has a pipeline in force that was built with this description before. -/
def DrawsWith (earlier events : List GpuEvent) (description : PipelineDescription) : Prop :=
  ∀ before e after, events = before ++ e :: after → e.IsDraw →
    ∃ number label, pipelineInPass before = some number ∧
      .createPipeline number label description ∈ earlier ++ before

namespace DrawsWith

variable {earlier events rest : List GpuEvent} {description : PipelineDescription}

lemma of_not_isDraw (h : ∀ e ∈ events, ¬ e.IsDraw) : DrawsWith earlier events description := by
  intro before e after heq hdraw
  have hmem : e ∈ events := by
    rw [heq]
    exact List.mem_append_right _ List.mem_cons_self
  exact absurd hdraw (h e hmem)

/-- Calls that draw with one pipeline, which was built before them. -/
lemma of_drawsOnlyWith {number : ℕ} {label : Option String} (h : DrawsOnlyWith events number)
    (hbuilt : .createPipeline number label description ∈ earlier) :
    DrawsWith earlier events description := fun before e after heq hdraw =>
  ⟨number, label, h.inForce before e after heq hdraw, List.mem_append_left _ hbuilt⟩

/-- Calls before that do not draw. -/
lemma prepend (h : DrawsWith (earlier ++ rest) events description)
    (hrest : ∀ e ∈ rest, ¬ e.IsDraw) : DrawsWith earlier (rest ++ events) description := by
  intro before e after heq hdraw
  rcases append_eq_append_cons heq with ⟨middle, rfl, -⟩ | ⟨middle, rfl, rfl⟩
  · exact absurd hdraw (hrest e (List.mem_append_right _ List.mem_cons_self))
  · obtain ⟨number, label, hforce, hbuilt⟩ := h middle e after rfl hdraw
    refine ⟨number, label, pipelineInPass_append_of_some rest hforce, ?_⟩
    rw [← List.append_assoc]
    exact hbuilt

/-- Calls after that do not draw. -/
lemma append (h : DrawsWith earlier events description) (hrest : ∀ e ∈ rest, ¬ e.IsDraw) :
    DrawsWith earlier (events ++ rest) description := by
  intro before e after heq hdraw
  rcases append_eq_append_cons heq with ⟨middle, rfl, -⟩ | ⟨middle, rfl, rfl⟩
  · exact h before e middle rfl hdraw
  · exact absurd hdraw (hrest e (List.mem_append_right _ List.mem_cons_self))

end DrawsWith

namespace GpuDevice

/-! ### Pipelines -/

/-- The calls that build a pipeline. -/
def buildEvents (number : ℕ) (label : Option String) (description : PipelineDescription) :
    List GpuEvent :=
  [.pushErrorScope "Validation", .createPipeline number label description, .popErrorScope]

/-- One pipeline was built, under the next number. -/
structure Builds (d d' : GpuDevice) (description : PipelineDescription) : Prop where
  pipelines : d'.recorder.pipelines = d.recorder.pipelines + 1
  log : ∃ label, d'.recorder.log =
    d.recorder.log ++ buildEvents (d.recorder.pipelines + 1) label description
  templates : d'.templates = d.templates
  colorFormat : d'.colorFormat = d.colorFormat
  sampleCount : d'.sampleCount = d.sampleCount
  targets : d'.targets = d.targets

lemma Builds.targets_isSome {d d' : GpuDevice} {description : PipelineDescription}
    (h : Builds d d' description) : d.targets.isSome → d'.targets.isSome := by
  rw [h.targets]
  exact id

/-- The machine accepts the next pipeline. -/
def AcceptsNext (d : GpuDevice) : Prop := d.recorder.script.pipelineErrors.headD none = none

instance (d : GpuDevice) : Decidable d.AcceptsNext := inferInstanceAs (Decidable (_ = _))

/-- The pipeline for a template and a depth-stencil object is there, or it is built and kept, or it
is rejected and not kept. -/
lemma realize_cases (p : GpuPipeline) (q : GpuDepthStencil) (d : GpuDevice) :
    (∃ number, d.variants.get? (p.id, q.key) = some number ∧ realize p q d = (.ok number, d)) ∨
      (d.variants.get? (p.id, q.key) = none ∧ d.AcceptsNext ∧
        ∃ d', realize p q d = (.ok (d.recorder.pipelines + 1), d') ∧
          Builds d d' (p.template.describe q.state) ∧
          d'.variants = d.variants.insert (p.id, q.key) (d.recorder.pipelines + 1)) ∨
      (d.variants.get? (p.id, q.key) = none ∧ ¬ d.AcceptsNext ∧
        ∃ fault d', realize p q d = (.error fault, d') ∧
          Builds d d' (p.template.describe q.state) ∧ d'.variants = d.variants) := by
  rw [realize, Recorder.createPipeline]
  cases hget : d.variants.get? (p.id, q.key) with
  | some number => exact .inl ⟨number, rfl, rfl⟩
  | none =>
    right
    dsimp only
    cases hanswer : d.recorder.script.pipelineErrors.headD none with
    | none => exact .inl ⟨rfl, hanswer, _, rfl, ⟨rfl, ⟨_, rfl⟩, rfl, rfl, rfl, rfl⟩, rfl⟩
    | some reason =>
      have hrejects : ¬ d.AcceptsNext := by
        rw [AcceptsNext, hanswer]
        exact Option.some_ne_none reason
      exact .inr ⟨rfl, hrejects, _, _, rfl, ⟨rfl, ⟨_, rfl⟩, rfl, rfl, rfl, rfl⟩, rfl⟩

/-- A key that fits the device has its template refused, or the template is tried with the default
depth-stencil object. -/
lemma compilePipeline_cases {key : PipelineKey} (layout : Option VertexLayout) {d : GpuDevice}
    (hformat : key.colorFormat = d.colorFormat) (hsamples : key.sampleCount = d.sampleCount) :
    (∃ fault, PipelineTemplate.of key layout = .error fault ∧
        compilePipeline key layout d = (.error fault, d)) ∨
      (∃ template answer d', PipelineTemplate.of key layout = .ok template ∧
        realize ⟨d.templates + 1, template⟩ defaultDepthStencil
          { d with templates := d.templates + 1 } = (answer, d') ∧
        compilePipeline key layout d =
          (answer.map fun _ => ⟨d.templates + 1, template⟩, d')) := by
  rw [compilePipeline, if_neg (by rw [hformat, hsamples]; simp)]
  cases htemplate : PipelineTemplate.of key layout with
  | error fault => exact .inl ⟨fault, rfl, rfl⟩
  | ok template =>
    right
    dsimp only
    rcases hcall : realize ⟨d.templates + 1, template⟩ defaultDepthStencil
      { d with templates := d.templates + 1 } with ⟨answer, d'⟩
    refine ⟨template, answer, d', rfl, hcall, ?_⟩
    cases answer <;> rfl

/-! ### Draws -/

lemma emit_emit (d : GpuDevice) (events events' : List GpuEvent) :
    (d.emit events).emit events' = d.emit (events ++ events') := by
  rw [emit, emit, emit, Recorder.emit, Recorder.emit, Recorder.emit, List.append_assoc]

lemma scissorEvents_isPassCall {scissor : Option ScissorRect} {targets : FrameTargets}
    {events : List GpuEvent} (h : scissorEvents scissor targets = some events) :
    ∀ e ∈ events, e.IsPassCall := by
  cases scissor with
  | none =>
    obtain rfl := Option.some.inj h
    exact List.forall_mem_nil _
  | some r =>
    obtain ⟨clipped, -, rfl⟩ := Option.map_eq_some_iff.mp h
    intro e he
    rw [List.mem_singleton.mp he]
    rfl

lemma drawEvents_isPassCall {P D : Type} (config : DrawConfig P D) (call : DrawCall)
    (targets : FrameTargets) (maxDimension : ℕ) :
    ∀ e ∈ (drawEvents config call targets maxDimension).2, e.IsPassCall := by
  have hstate : ∀ (rect : ViewportRect),
      ∀ e ∈ GpuEvent.setViewport rect ::
          (config.stencilReference.map GpuEvent.setStencilReference).toList ++
        (call.vertex.map fun b => GpuEvent.setVertexBuffer 0 b.buffer b.offset b.size).toList,
        e.IsPassCall := by
    intro rect e he
    cases hreference : config.stencilReference <;> cases hvertex : call.vertex <;>
      · rw [hreference, hvertex] at he
        simp only [Option.map, Option.toList, List.cons_append, List.nil_append, List.mem_cons,
          List.not_mem_nil, or_false] at he
        rcases he with rfl | rfl | rfl <;> rfl
  have hcall : ∀ events, callEvents call = .ok events → ∀ e ∈ events, e.IsPassCall := by
    intro events h e he
    rw [callEvents] at h
    split at h
    · cases h
      rw [List.mem_singleton.mp he]
      rfl
    · cases h
      simp only [List.mem_cons, List.not_mem_nil, or_false] at he
      rcases he with rfl | rfl <;> rfl
    · cases h
  rw [drawEvents]
  dsimp only
  split
  · exact List.forall_mem_nil _
  · split
    · rename_i events h
      intro e he
      rcases List.mem_append.mp he with he | he
      · exact hstate _ e he
      · exact hcall events h e he
    · exact hstate _

/-- A pass consists of pass calls. -/
lemma passEvents_isPassCall {P D : Type} {config : DrawConfig P D} {targets : FrameTargets}
    {scissor : List GpuEvent} (h : scissorEvents config.scissor targets = some scissor)
    (call : DrawCall) (maxDimension : ℕ) :
    ∀ e ∈ scissor ++ (drawEvents config call targets maxDimension).2, e.IsPassCall := by
  intro e he
  rcases List.mem_append.mp he with he | he
  · exact scissorEvents_isPassCall h e he
  · exact drawEvents_isPassCall _ _ _ _ e he

/-- What a draw records with a pipeline at hand. The device remembers what it did. -/
structure Encoded (d : GpuDevice) (pipeline : ℕ) (d' : GpuDevice) : Prop where
  log : ∃ events, d'.recorder.log = d.recorder.log ++ events ∧ DrawsOnlyWith events pipeline
  pipelines : d'.recorder.pipelines = d.recorder.pipelines
  templates : d'.templates = d.templates
  variants : d'.variants = d.variants
  colorFormat : d'.colorFormat = d.colorFormat
  sampleCount : d'.sampleCount = d.sampleCount
  targets : d.targets.isSome → d'.targets.isSome

namespace Encoded

variable {d d' : GpuDevice} {pipeline : ℕ}

lemma of_quiet (h : Quiet d d') : Encoded d pipeline d' where
  log := by
    obtain ⟨events, hlog, hquiet⟩ := h.recorder.log
    exact ⟨events, hlog, .of_quiet hquiet⟩
  pipelines := h.recorder.pipelines
  templates := h.templates
  variants := h.variants
  colorFormat := h.colorFormat
  sampleCount := h.sampleCount
  targets := h.targets

lemma of_set (h : Quiet d d') {rest : List GpuEvent} (hrest : ∀ e ∈ rest, e.IsInPass) :
    Encoded d pipeline (d'.emit (.setPipeline pipeline :: rest)) where
  log := by
    obtain ⟨events, hlog, hquiet⟩ := h.recorder.log
    refine ⟨events ++ .setPipeline pipeline :: rest, ?_, .of_set hquiet hrest⟩
    rw [← List.append_assoc, ← hlog]
    rfl
  pipelines := h.recorder.pipelines
  templates := h.templates
  variants := h.variants
  colorFormat := h.colorFormat
  sampleCount := h.sampleCount
  targets := h.targets

end Encoded

lemma encodePass_encoded {P D : Type} (config : DrawConfig P D) (call : DrawCall) (pipeline : ℕ)
    (targets : FrameTargets) (d : GpuDevice) :
    Encoded d pipeline (encodePass config call pipeline targets d).2 := by
  have hpass := d.quiet_beginPass none
  rw [encodePass]
  split
  · rename_i hcall
    rw [hcall] at hpass
    exact .of_quiet hpass
  · rename_i d₁ hcall
    rw [hcall] at hpass
    dsimp only
    split
    · exact .of_set hpass (List.forall_mem_nil _)
    · rename_i scissor hscissor
      rw [emit_emit d₁ [.setPipeline pipeline]]
      exact .of_set hpass fun e he =>
        GpuEvent.isInPass_of_isPassCall (passEvents_isPassCall hscissor call _ e he)

/-- A draw that has all it needs has its pipeline refused, or is encoded with it. -/
lemma encodeDraw_cases (config : DrawConfig GpuPipeline GpuDepthStencil) (call : DrawCall)
    {d : GpuDevice} (hvertex : config.pipeline.template.hasVertexInput → call.vertex.isSome)
    (htargets : d.targets.isSome) :
    (∃ fault d', realize config.pipeline config.depthStencil d = (.error fault, d') ∧
        encodeDraw config call d = (.error fault, d')) ∨
      (∃ number d₁ d', realize config.pipeline config.depthStencil d = (.ok number, d₁) ∧
        (encodeDraw config call d).2 = d' ∧ Encoded d₁ number d') := by
  obtain ⟨targets, hsome⟩ := Option.isSome_iff_exists.mp htargets
  have hready : (config.pipeline.template.hasVertexInput && call.vertex.isNone) = false := by
    cases hinput : config.pipeline.template.hasVertexInput with
    | false => rfl
    | true =>
      rw [Bool.true_and, ← Option.not_isSome, hvertex hinput]
      rfl
  rw [encodeDraw, hready, if_neg Bool.false_ne_true, hsome]
  dsimp only
  rcases hcall : realize config.pipeline config.depthStencil d with ⟨answer, d₁⟩
  cases answer with
  | error fault => exact .inl ⟨fault, d₁, rfl, rfl⟩
  | ok number => exact .inr ⟨number, d₁, _, rfl, rfl, encodePass_encoded ..⟩

end GpuDevice

end RenderBridge
