import RenderBridge.Proofs.Gpu.Memo
import RenderBridge.Proofs.Trace
/-!
The ledger of a graphics device, kept call by call.

* `Exchange.events`, `Exchange.pair`, `Exchange.builds`: what one call makes of the machine, the
  pair of keys it asks for, and the pipelines it builds.
* `Exchange.AsNeeded`: a call builds a pipeline exactly where none was accepted for its pair.
* `Remembers`: cache, layouts and device agree with the ledger of all calls so far.
-/

set_option autoImplicit false

namespace RenderBridge

/-- A call to a graphics device. -/
abbrev GpuExchange := Exchange GpuDevice GpuPipeline GpuDepthStencil

/-- A graphics device with the calls made to it so far. -/
abbrev TracedGpu := Traced GpuDevice GpuPipeline GpuDepthStencil

/-! ### One call -/

/-- The pipeline that a call on the machine builds for a pair of keys, if it builds one. -/
def GpuEvent.builtFor (pair : PipelineKey × DepthStencilKey) (accepted : Bool) :
    GpuEvent → Option PipelineBuild
  | createPipeline number _ description => some ⟨pair, number, description, accepted⟩
  | _ => none

lemma GpuEvent.builtFor_of_isQuiet {e : GpuEvent} (h : e.IsQuiet)
    (pair : PipelineKey × DepthStencilKey) (accepted : Bool) : e.builtFor pair accepted = none := by
  cases e with
  | createPipeline => cases h
  | _ => rfl

namespace Exchange

/-- The calls on the machine that a call to the device makes. -/
def events (e : GpuExchange) : List GpuEvent :=
  e.after.recorder.log.drop e.before.recorder.log.length

/-- The pair of keys whose pipeline a call asks for. A pipeline key is compiled together with the
default depth-stencil key. -/
def pair (e : GpuExchange) : Option (PipelineKey × DepthStencilKey) :=
  match e.request with
  | .compilePipeline key _ => some (key, DepthStencilKey.of {})
  | .encodeDraw config _ => some (config.pipelineKey, config.depthStencilKey)
  | _ => none

/-- The pipelines that a call builds. -/
def builds (e : GpuExchange) : List PipelineBuild :=
  match e.pair with
  | some pair => e.events.filterMap (GpuEvent.builtFor pair (decide e.before.AcceptsNext))
  | none => []

/-- Where a pipeline was accepted for the pair before, nothing is built. Where none was, one is
built; only where none was ever built, the call may be refused instead. -/
def AsNeeded (e : GpuExchange) (before : List PipelineBuild) : Prop :=
  ∀ pair, e.pair = some pair →
    (pair ∈ acceptedPairs before ∧ e.builds = []) ∨
      (pair ∉ acceptedPairs before ∧ ∃ b, e.builds = [b]) ∨
      (pair ∉ before.map (·.pair) ∧ e.builds = [] ∧ e.accepted = false)

variable {e : GpuExchange}

lemma events_of_log {events : List GpuEvent}
    (h : e.after.recorder.log = e.before.recorder.log ++ events) : e.events = events := by
  rw [Exchange.events, h, List.drop_left]

lemma builds_of_pair {pair : PipelineKey × DepthStencilKey} (h : e.pair = some pair) :
    e.builds = e.events.filterMap (GpuEvent.builtFor pair (decide e.before.AcceptsNext)) := by
  rw [builds, h]

/-- Quiet calls build nothing. -/
lemma builds_of_quiet (h : ∀ event ∈ e.events, event.IsQuiet) : e.builds = [] := by
  rw [builds]
  cases e.pair with
  | none => rfl
  | some pair =>
    exact List.filterMap_eq_nil_iff.mpr fun event hevent =>
      GpuEvent.builtFor_of_isQuiet (h event hevent) pair _

end Exchange

/-! ### All calls -/

/-- What a device remembers, with what it has built and called. -/
def Traced.ledger (t : TracedGpu) : PipelineLedger where
  templates := t.device.templates
  variants := t.device.variants
  pipelines := t.device.recorder.pipelines
  builds := t.exchanges.flatMap (·.builds)
  events := t.exchanges.flatMap (·.events)

lemma Traced.ledger_append (t : TracedGpu) (e : GpuExchange) :
    ledger ⟨e.after, t.exchanges ++ [e]⟩ =
      ⟨e.after.templates, e.after.variants, e.after.recorder.pipelines,
        t.ledger.builds ++ e.builds, t.ledger.events ++ e.events⟩ := by
  simp only [ledger, List.flatMap_append, List.flatMap_singleton]

/-- Every call built its pipeline as needed. -/
def BuiltAsNeeded (es : List GpuExchange) : Prop :=
  ∀ before e, before ++ [e] <+: es → e.AsNeeded (before.flatMap (·.builds))

lemma BuiltAsNeeded.nil : BuiltAsNeeded [] := by
  intro before e hbegins
  cases List.append_ne_nil_of_right_ne_nil before (List.cons_ne_nil e [])
    (List.prefix_nil.mp hbegins)

lemma BuiltAsNeeded.append {es : List GpuExchange} {e : GpuExchange} (h : BuiltAsNeeded es)
    (he : e.AsNeeded (es.flatMap (·.builds))) : BuiltAsNeeded (es ++ [e]) := by
  intro before e' hbegins
  rcases List.prefix_concat_iff.mp hbegins with heq | hbegins
  · obtain ⟨rfl, hlast⟩ := List.append_inj' heq rfl
    obtain rfl := List.singleton_inj.mp hlast
    exact he
  · exact h before e' hbegins

/-- What a context and its graphics device remember of pipelines agrees with all that was built and
called since the log was as given, and the device fits the configuration. -/
structure Remembers (config : Config) (log : List GpuEvent)
    (cache : Cache GpuPipeline GpuDepthStencil) (layouts : LayoutRegistry) (t : TracedGpu) :
    Prop where
  memo : Memo cache layouts t.ledger
  asNeeded : BuiltAsNeeded t.exchanges
  log_eq : t.device.recorder.log = log ++ t.ledger.events
  colorFormat : t.device.colorFormat = config.colorFormat
  sampleCount : t.device.sampleCount = config.effectiveSamples
  targets : t.device.targets.isSome

/-- Only calls were made since that do not draw. -/
def Traced.DrawsNothing (t t' : TracedGpu) : Prop :=
  ∃ events, t'.ledger.events = t.ledger.events ++ events ∧ ∀ e ∈ events, ¬ e.IsDraw

namespace Traced.DrawsNothing

variable {t t' t'' : TracedGpu}

/-- One more call, which does not draw. -/
lemma of_log {e : GpuExchange} {events : List GpuEvent}
    (hlog : e.after.recorder.log = e.before.recorder.log ++ events)
    (hundrawn : ∀ event ∈ events, ¬ event.IsDraw) :
    t.DrawsNothing ⟨e.after, t.exchanges ++ [e]⟩ :=
  ⟨events, by rw [ledger_append, Exchange.events_of_log hlog], hundrawn⟩

lemma refl (t : TracedGpu) : t.DrawsNothing t :=
  ⟨[], (List.append_nil _).symm, List.forall_mem_nil _⟩

lemma trans (h : t.DrawsNothing t') (h' : t'.DrawsNothing t'') : t.DrawsNothing t'' := by
  obtain ⟨events, hevents, hdraw⟩ := h
  obtain ⟨events', hevents', hdraw'⟩ := h'
  refine ⟨events ++ events', by rw [hevents', hevents, List.append_assoc], fun e he => ?_⟩
  rcases List.mem_append.mp he with he | he
  · exact hdraw e he
  · exact hdraw' e he

end Traced.DrawsNothing

namespace Remembers

variable {config : Config} {log : List GpuEvent} {cache cache' : Cache GpuPipeline GpuDepthStencil}
  {layouts : LayoutRegistry} {t t' : TracedGpu}

/-- One more call, with its calls on the machine, and the memo after it. -/
lemma note (h : Remembers config log cache layouts t) {e : GpuExchange} {events : List GpuEvent}
    (hbefore : e.before = t.device) (hlog : e.after.recorder.log = t.device.recorder.log ++ events)
    (hmemo : Memo cache' layouts ⟨e.after.templates, e.after.variants, e.after.recorder.pipelines,
      t.ledger.builds ++ e.builds, t.ledger.events ++ events⟩)
    (hneeded : e.AsNeeded t.ledger.builds) (hformat : e.after.colorFormat = t.device.colorFormat)
    (hsamples : e.after.sampleCount = t.device.sampleCount)
    (htargets : t.device.targets.isSome → e.after.targets.isSome) :
    Remembers config log cache' layouts ⟨e.after, t.exchanges ++ [e]⟩ := by
  have hledger := t.ledger_append e
  rw [Exchange.events_of_log (hbefore ▸ hlog)] at hledger
  constructor
  · rw [hledger]
    exact hmemo
  · exact h.asNeeded.append hneeded
  · rw [hledger, ← List.append_assoc, ← h.log_eq]
    exact hlog
  · exact hformat.trans h.colorFormat
  · exact hsamples.trans h.sampleCount
  · exact htargets h.targets

/-- Only the tables of the cache matter. -/
lemma recache (h : Remembers config log cache layouts t)
    (hpipelines : cache'.pipelines = cache.pipelines)
    (hdepthStencil : ∀ key q, cache'.depthStencils.get? key = some q → q = .of key) :
    Remembers config log cache' layouts t :=
  { h with memo := h.memo.recache hpipelines hdepthStencil }

/-! ### Quiet calls -/

/-- A quiet call is noted. -/
lemma call_quiet (h : Remembers config log cache layouts t) (request : GpuDevice.Call)
    (hdraw : request.kind ≠ .drawing)
    (hcompile : ∀ key layout, request ≠ .compilePipeline key layout) :
    Remembers config log cache layouts (t.call request).2 ∧ t.DrawsNothing (t.call request).2 := by
  have hquiet := GpuDevice.quiet_perform request hdraw hcompile t.device
  obtain ⟨events, hlog, hevents⟩ := hquiet.recorder.log
  have hpair : (Exchange.of request t.device).pair = none := by
    cases request with
    | compilePipeline key layout => exact absurd rfl (hcompile key layout)
    | encodeDraw => exact absurd rfl hdraw
    | _ => rfl
  have hbuilds : (Exchange.of request t.device).builds = [] := by rw [Exchange.builds, hpair]
  have hmemo : Memo cache layouts { t.ledger with events := t.ledger.events ++ events } := by
    refine h.memo.record (fun number label description hmem => ?_) (fun number hmem => ?_)
    · cases hevents _ hmem
    · cases hevents _ hmem
  have hafter : Memo cache layouts ⟨(request.perform t.device).2.templates,
      (request.perform t.device).2.variants, (request.perform t.device).2.recorder.pipelines,
      t.ledger.builds ++ (Exchange.of request t.device).builds, t.ledger.events ++ events⟩ := by
    rw [hbuilds, List.append_nil, hquiet.templates, hquiet.variants, hquiet.recorder.pipelines]
    exact hmemo
  refine ⟨h.note (e := .of request t.device) rfl hlog hafter ?_ hquiet.colorFormat
    hquiet.sampleCount hquiet.targets, ?_⟩
  · intro pair hsome
    cases hpair.symm.trans hsome
  · exact Traced.DrawsNothing.of_log (e := .of request t.device) hlog
      fun e he => GpuEvent.not_isDraw_of_isQuiet (hevents e he)

/-- Calls that neither compile nor draw are quiet. -/
lemma keeps (config : Config) (log : List GpuEvent) (cache : Cache GpuPipeline GpuDepthStencil)
    (layouts : LayoutRegistry) (t₀ : TracedGpu) {kinds : List CallKind}
    (hcompile : .compiling ∉ kinds) (hdraw : .drawing ∉ kinds) :
    Keeps (fun t : TracedGpu => Remembers config log cache layouts t ∧ t₀.DrawsNothing t)
      kinds := by
  intro request hkind t ht
  obtain ⟨hremembers, hnothing⟩ := ht
  have hkeydraw : request.kind ≠ .drawing := fun heq => hdraw (heq ▸ hkind)
  have hkeycompile : ∀ key layout, request ≠ .compilePipeline key layout := by
    rintro key layout rfl
    exact hcompile hkind
  obtain ⟨hafter, hstep⟩ := hremembers.call_quiet request hkeydraw hkeycompile
  rw [Traced.perform_eq_call]
  exact ⟨hafter, hnothing.trans hstep⟩

end Remembers

end RenderBridge
