import RenderBridge.Proofs.Gpu.Ledger
/-!
What a graphics device does when it is asked for a pipeline, beside the ledger of its calls.

* `GpuDevice.realize_asked`: asked for the pipeline of a cached template, it builds one as needed.
* `Remembers.compilePipeline`: a key that was free is compiled and cached, or refused.
* `Remembers.resolve`: **resolving the state of a draw** keeps what is remembered.
* `Remembers.encodeDraw`: **a draw has the pipeline of its keys in force.**
-/

set_option autoImplicit false

namespace RenderBridge

variable {config : Config} {log : List GpuEvent} {cache cache' : Cache GpuPipeline GpuDepthStencil}
  {layouts : LayoutRegistry} {t t' : TracedGpu} {l : PipelineLedger} {key : PipelineKey}
  {p : GpuPipeline}

/-! ### Pipelines of cached templates -/

namespace GpuDevice

lemma filterMap_buildEvents (number : ℕ) (label : Option String)
    (description : PipelineDescription) (pair : PipelineKey × DepthStencilKey) (accepted : Bool) :
    (buildEvents number label description).filterMap (GpuEvent.builtFor pair accepted) =
      [⟨pair, number, description, accepted⟩] := rfl

lemma not_isDraw_of_mem_buildEvents {number : ℕ} {label : Option String}
    {description : PipelineDescription} :
    ∀ e ∈ buildEvents number label description, ¬ e.IsDraw := by
  intro e he
  simp only [buildEvents, List.mem_cons, List.not_mem_nil, or_false] at he
  rcases he with rfl | rfl | rfl <;> exact Bool.false_ne_true

/-- A device that was asked for the pipeline of a pair of keys: what it built and called, as far as
it was needed. -/
structure Asked (cache : Cache GpuPipeline GpuDepthStencil) (layouts : LayoutRegistry)
    (l : PipelineLedger) (pair : PipelineKey × DepthStencilKey) (d d' : GpuDevice)
    (builds : List PipelineBuild) (events : List GpuEvent) : Prop where
  log_eq : d'.recorder.log = d.recorder.log ++ events
  builds_eq : events.filterMap (GpuEvent.builtFor pair (decide d.AcceptsNext)) = builds
  memo : Memo cache layouts ⟨d'.templates, d'.variants, d'.recorder.pipelines,
    l.builds ++ builds, l.events ++ events⟩
  needed : (pair ∈ acceptedPairs l.builds ∧ builds = []) ∨
    (pair ∉ acceptedPairs l.builds ∧ ∃ b, builds = [b])
  colorFormat : d'.colorFormat = d.colorFormat
  sampleCount : d'.sampleCount = d.sampleCount
  targets : d.targets.isSome → d'.targets.isSome

/-- Asked for the pipeline of a cached template, a device has it, or builds it. What it answers was
built for the pair. -/
lemma realize_asked {d : GpuDevice} (h : Memo cache layouts l)
    (htemplates : l.templates = d.templates) (hvariants : l.variants = d.variants)
    (hpipelines : l.pipelines = d.recorder.pipelines) (hp : cache.pipelines.get? key = some p)
    (dkey : DepthStencilKey) :
    ∃ builds events, Asked cache layouts l (key, dkey) d (realize p (.of dkey) d).2 builds events ∧
      (∀ e ∈ events, ¬ e.IsDraw) ∧
      ∀ number, (realize p (.of dkey) d).1 = .ok number →
        ⟨(key, dkey), number, p.template.describe (.of dkey), true⟩ ∈ l.builds ++ builds := by
  have haccepted := h.mem_acceptedPairs_iff hp dkey
  rw [hvariants] at haccepted
  have hnot : d.variants.get? (p.id, dkey) = none → (key, dkey) ∉ acceptedPairs l.builds := by
    intro hfree hmem
    have hsome := haccepted.mp hmem
    rw [hfree] at hsome
    cases hsome
  rcases realize_cases p (.of dkey) d with ⟨number, hkept, hcall⟩ |
      ⟨hfree, haccepts, d', hcall, hbuilds, hinsert⟩ |
        ⟨hfree, hrejects, fault, d', hcall, hbuilds, hsame⟩
  · rw [hcall]
    refine ⟨[], [], ⟨(List.append_nil _).symm, rfl, ?_, ?_, rfl, rfl, id⟩,
      List.forall_mem_nil _, ?_⟩
    · rw [List.append_nil, List.append_nil, ← htemplates, ← hvariants, ← hpipelines]
      exact h
    · exact .inl ⟨haccepted.mpr (Option.isSome_iff_exists.mpr ⟨number, hkept⟩), rfl⟩
    · rintro number' ⟨⟩
      rw [List.append_nil]
      exact h.build_of_variant hp (by rw [hvariants]; exact hkept)
  · obtain ⟨label, hlog⟩ := hbuilds.log
    have hmemo := h.build hp dkey (by rw [hvariants]; exact hfree) label
    rw [PipelineLedger.built, hvariants, hpipelines, htemplates] at hmemo
    rw [hcall]
    refine ⟨_, _, ⟨hlog, rfl, ?_, .inr ⟨hnot hfree, _, rfl⟩, hbuilds.colorFormat,
      hbuilds.sampleCount, hbuilds.targets_isSome⟩, not_isDraw_of_mem_buildEvents, ?_⟩
    · rw [hbuilds.templates, hinsert, hbuilds.pipelines, filterMap_buildEvents,
        decide_eq_true haccepts]
      exact hmemo
    · rintro number' ⟨⟩
      rw [filterMap_buildEvents, decide_eq_true haccepts]
      exact List.mem_append_right _ List.mem_cons_self
  · obtain ⟨label, hlog⟩ := hbuilds.log
    have hmemo := h.reject (h.template key p hp) dkey (p.template.describe (.of dkey)) label
    rw [PipelineLedger.built, hvariants, hpipelines, htemplates] at hmemo
    rw [hcall]
    refine ⟨_, _, ⟨hlog, rfl, ?_, .inr ⟨hnot hfree, _, rfl⟩, hbuilds.colorFormat,
      hbuilds.sampleCount, hbuilds.targets_isSome⟩, not_isDraw_of_mem_buildEvents, ?_⟩
    · rw [hbuilds.templates, hsame, hbuilds.pipelines, filterMap_buildEvents,
        decide_eq_false hrejects]
      exact hmemo
    · rintro number' ⟨⟩

/-- A draw is recorded with a pipeline that was built and accepted. -/
lemma Asked.encoded {pair : PipelineKey × DepthStencilKey} {d d₁ d' : GpuDevice}
    {builds : List PipelineBuild} {events : List GpuEvent} {number : ℕ}
    {description : PipelineDescription} (h : Asked cache layouts l pair d d₁ builds events)
    (hencoded : Encoded d₁ number d')
    (hbuilt : ⟨pair, number, description, true⟩ ∈ l.builds ++ builds) :
    ∃ rest, Asked cache layouts l pair d d' builds (events ++ rest) ∧
      DrawsWith (l.events ++ events) rest description := by
  obtain ⟨rest, hlog, honly⟩ := hencoded.log
  have hnone : rest.filterMap (GpuEvent.builtFor pair (decide d.AcceptsNext)) = [] := by
    refine List.filterMap_eq_nil_iff.mpr fun e he => ?_
    cases e with
    | createPipeline number label description => exact absurd he (honly.unbuilt _ _ _)
    | _ => rfl
  refine ⟨rest, ⟨?_, ?_, ?_, h.needed, hencoded.colorFormat.trans h.colorFormat,
    hencoded.sampleCount.trans h.sampleCount, hencoded.targets ∘ h.targets⟩, ?_⟩
  · rw [hlog, h.log_eq, List.append_assoc]
  · rw [List.filterMap_append, hnone, List.append_nil, h.builds_eq]
  · rw [hencoded.templates, hencoded.variants, hencoded.pipelines, ← List.append_assoc]
    refine h.memo.record honly.unbuilt fun number' hset => ?_
    rw [honly.set_eq number' hset]
    exact ⟨_, hbuilt, rfl, rfl⟩
  · obtain ⟨label, hcreated⟩ := h.memo.listed _ hbuilt
    exact .of_drawsOnlyWith honly hcreated

end GpuDevice

/-- A call that asks for a pipeline is noted. -/
lemma Remembers.ask (h : Remembers config log cache layouts t) {e : GpuExchange}
    {pair : PipelineKey × DepthStencilKey} {builds : List PipelineBuild} {events : List GpuEvent}
    (hbefore : e.before = t.device) (hpair : e.pair = some pair)
    (hasked : GpuDevice.Asked cache' layouts t.ledger pair t.device e.after builds events) :
    Remembers config log cache' layouts ⟨e.after, t.exchanges ++ [e]⟩ ∧
      (Traced.ledger ⟨e.after, t.exchanges ++ [e]⟩).events = t.ledger.events ++ events := by
  have hevents : e.events = events := Exchange.events_of_log (hbefore ▸ hasked.log_eq)
  have hbuilds : e.builds = builds := by
    rw [Exchange.builds_of_pair hpair, hevents, hbefore]
    exact hasked.builds_eq
  refine ⟨h.note hbefore hasked.log_eq ?_ ?_ hasked.colorFormat hasked.sampleCount hasked.targets,
    by rw [t.ledger_append, hevents]⟩
  · rw [hbuilds]
    exact hasked.memo
  · intro pair' hpair'
    cases hpair.symm.trans hpair'
    rw [hbuilds]
    rcases hasked.needed with hkept | hbuilt
    · exact .inl hkept
    · exact .inr (.inl hbuilt)

/-! ### Compiling -/

namespace Remembers

/-- Compiling under a key whose layout is refused calls nothing. -/
lemma compile_refused (h : Remembers config log cache layouts t) {fault : DeviceFault}
    (hrefused : PipelineTemplate.of key (layouts.native key.vertexLayout) = .error fault) :
    Remembers config log cache layouts ⟨t.device, t.exchanges ++
      [⟨.compilePipeline key (layouts.native key.vertexLayout), false, t.device, t.device⟩]⟩ := by
  set e : GpuExchange :=
    ⟨.compilePipeline key (layouts.native key.vertexLayout), false, t.device, t.device⟩ with he
  have hevents : e.events = [] := Exchange.events_of_log (List.append_nil _).symm
  have hbuilds : e.builds = [] :=
    Exchange.builds_of_quiet (by rw [hevents]; exact List.forall_mem_nil _)
  refine h.note (e := e) rfl (List.append_nil _).symm ?_ ?_ rfl rfl id
  · rw [hbuilds, List.append_nil, List.append_nil]
    exact h.memo
  · -- Nothing was ever built for the key, as its layout was the same before.
    rintro pair ⟨⟩
    refine .inr (.inr ⟨fun hmem => ?_, hbuilds, rfl⟩)
    obtain ⟨b, hb, hpair⟩ := List.mem_map.mp hmem
    obtain ⟨template, hgives⟩ := h.memo.buildable b hb
    rw [hpair] at hgives
    cases hrefused.symm.trans hgives.of_eq

/-- Compiling under a free key builds a pipeline. -/
lemma compile_built (h : Remembers config log cache layouts t)
    (hfree : cache.pipelines.get? key = none) {d : GpuDevice}
    {description : PipelineDescription} {label : Option String} (accepted : Bool)
    (hbuilds : GpuDevice.Builds { t.device with templates := t.device.templates + 1 } d description)
    (hlog : d.recorder.log = t.device.recorder.log ++
      GpuDevice.buildEvents (t.device.recorder.pipelines + 1) label description)
    (hmemo : Memo cache' layouts (PipelineLedger.built
      { t.ledger with templates := t.device.templates + 1 } d.variants
      ⟨(key, DepthStencilKey.of {}), t.device.recorder.pipelines + 1, description,
        decide t.device.AcceptsNext⟩ label)) :
    Remembers config log cache' layouts ⟨d, t.exchanges ++
      [⟨.compilePipeline key (layouts.native key.vertexLayout), accepted, t.device, d⟩]⟩ := by
  have hunbuilt : (key, DepthStencilKey.of {}) ∉ acceptedPairs t.ledger.builds := by
    intro hmem
    obtain ⟨b, hb, haccepted, hpair⟩ := mem_acceptedPairs.mp hmem
    obtain ⟨p, hp, -⟩ := h.memo.accepted b hb haccepted
    rw [hpair] at hp
    cases hfree.symm.trans hp
  refine (h.ask (e := ⟨_, accepted, t.device, d⟩) rfl rfl ⟨hlog, rfl, ?_, .inr ⟨hunbuilt, _, rfl⟩,
    hbuilds.colorFormat, hbuilds.sampleCount, hbuilds.targets_isSome⟩).1
  rw [GpuDevice.filterMap_buildEvents, hbuilds.templates, hbuilds.pipelines]
  exact hmemo

/-- A pipeline key that is free is compiled with its registered layout, and can be cached then; or
it is refused, and stays free. -/
lemma compilePipeline (h : Remembers config log cache layouts t)
    (hfree : cache.pipelines.get? key = none)
    (hregistered : ∀ handle, key.vertexLayout = some handle →
      (layouts.records.get? handle).isSome)
    (hformat : key.colorFormat = config.colorFormat)
    (hsamples : key.sampleCount = config.effectiveSamples) :
    ∃ answer t', Device.compilePipeline key (layouts.native key.vertexLayout) t = (answer, t') ∧
      t.DrawsNothing t' ∧
      (∀ p cache', answer = .ok p → cache'.pipelines = cache.pipelines.insert key p →
        cache'.depthStencils = cache.depthStencils → Remembers config log cache' layouts t') ∧
      (∀ fault, answer = .error fault → Remembers config log cache layouts t') := by
  have hcall : Device.compilePipeline key (layouts.native key.vertexLayout) t =
      t.call (.compilePipeline key (layouts.native key.vertexLayout)) := rfl
  rcases GpuDevice.compilePipeline_cases (layouts.native key.vertexLayout)
      (hformat.trans h.colorFormat.symm) (hsamples.trans h.sampleCount.symm) with
    ⟨fault, hrefused, hout⟩ | ⟨template, answer, d, htemplate, hrealize, hout⟩
  · refine ⟨_, _, hcall.trans (Traced.call_eq hout), ?_, fun p cache' hok => ?_, fun _ _ => ?_⟩
    · exact Traced.DrawsNothing.of_log (e := ⟨_, _, t.device, t.device⟩) (List.append_nil _).symm
        (List.forall_mem_nil _)
    · cases hok
    · exact h.compile_refused hrefused
  · have hgives : layouts.Gives key template := ⟨hregistered, htemplate⟩
    -- The number of the new template was never used.
    have hnew : t.device.variants.get? (t.device.templates + 1, DepthStencilKey.of {}) = none := by
      rw [Option.eq_none_iff_forall_ne_some]
      intro number hnumber
      obtain ⟨key', p, hp, hid, -⟩ := h.memo.kept _ _ number hnumber
      have hle : p.id ≤ t.device.templates := h.memo.numbered.id_le key' p hp
      omega
    rcases GpuDevice.realize_cases ⟨t.device.templates + 1, template⟩ GpuDevice.defaultDepthStencil
        { t.device with templates := t.device.templates + 1 } with ⟨number, hkept, -⟩ |
          ⟨-, haccepts, d', hrealize', hbuilds, hinsert⟩ |
            ⟨-, hrejects, fault, d', hrealize', hbuilds, hsame⟩
    · cases hnew.symm.trans hkept
    · cases hrealize.symm.trans hrealize'
      obtain ⟨label, hlog⟩ := hbuilds.log
      refine ⟨_, _, hcall.trans (Traced.call_eq hout), ?_, fun p cache' hok hpipes hdepths => ?_,
        fun fault herror => ?_⟩
      · exact Traced.DrawsNothing.of_log (e := ⟨_, _, t.device, d⟩) hlog
          GpuDevice.not_isDraw_of_mem_buildEvents
      · cases hok
        have hp : cache'.pipelines.get? key = some ⟨t.device.templates + 1, template⟩ := by
          rw [hpipes, Table.get?_insert, if_pos rfl]
        refine h.compile_built hfree true hbuilds hlog ?_
        rw [hinsert, show decide t.device.AcceptsNext = true from decide_eq_true haccepts]
        exact (h.memo.insert hfree hgives hpipes hdepths).build hp _ hnew label
      · cases herror
    · cases hrealize.symm.trans hrealize'
      obtain ⟨label, hlog⟩ := hbuilds.log
      refine ⟨_, _, hcall.trans (Traced.call_eq hout), ?_, fun p cache' hok => ?_, fun _ _ => ?_⟩
      · exact Traced.DrawsNothing.of_log (e := ⟨_, _, t.device, d⟩) hlog
          GpuDevice.not_isDraw_of_mem_buildEvents
      · cases hok
      · refine h.compile_built hfree false hbuilds hlog ?_
        rw [hsame, show decide t.device.AcceptsNext = false from decide_eq_false hrejects]
        exact (h.memo.skip (Nat.le_succ _)).reject hgives _ _ label

/-! ### Resolving -/

/-- A pipeline is looked up with the layout that is registered under its handle. -/
lemma pipeline (h : Remembers config log cache layouts t)
    (hregistered : ∀ handle, key.vertexLayout = some handle →
      (layouts.records.get? handle).isSome)
    (hformat : key.colorFormat = config.colorFormat)
    (hsamples : key.sampleCount = config.effectiveSamples) {answer : Except Fault GpuPipeline}
    (hcall : cache.pipeline key (layouts.native key.vertexLayout) t = (answer, cache', t')) :
    Remembers config log cache' layouts t' ∧ t.DrawsNothing t' := by
  rcases cache.pipeline_cases key (layouts.native key.vertexLayout) t with
    ⟨p, cache₁, -, hout, hpipes, hdepths⟩ |
      ⟨p, cache₁, t₁, hfree, hdevice, hout, hpipes, hdepths⟩ |
        ⟨reason, fault, cache₁, t₁, hfree, hdevice, hout, hpipes, hdepths⟩
  · cases hout.symm.trans hcall
    exact ⟨h.recache hpipes (by rw [hdepths]; exact h.memo.depthStencil), .refl t⟩
  · cases hout.symm.trans hcall
    obtain ⟨answer, t₂, hcompile, hnothing, hok, -⟩ :=
      h.compilePipeline hfree hregistered hformat hsamples
    cases hcompile.symm.trans hdevice
    exact ⟨hok p cache' rfl hpipes hdepths, hnothing⟩
  · cases hout.symm.trans hcall
    obtain ⟨answer, t₂, hcompile, hnothing, -, herror⟩ :=
      h.compilePipeline hfree hregistered hformat hsamples
    cases hcompile.symm.trans hdevice
    have hsame := herror reason rfl
    exact ⟨hsame.recache hpipes (by rw [hdepths]; exact hsame.memo.depthStencil), hnothing⟩

/-- Depth-stencil objects are those of their keys. -/
lemma depthStencil (h : Remembers config log cache layouts t) {dkey : DepthStencilKey}
    {answer : Except Fault GpuDepthStencil}
    (hcall : cache.depthStencil dkey t = (answer, cache', t')) :
    Remembers config log cache' layouts t' ∧ t.DrawsNothing t' := by
  have hdevice : Device.compileDepthStencil dkey t =
      ((.ok (.of dkey) : Except DeviceFault GpuDepthStencil),
        (t.call (.compileDepthStencil dkey)).2) := rfl
  rcases cache.depthStencil_cases dkey t with
    ⟨q, cache₁, -, hout, hpipes, hdepths⟩ |
      ⟨q, cache₁, t₁, hfree, hdevice', hout, hpipes, hdepths⟩ |
        ⟨reason, fault, cache₁, t₁, -, hdevice', -, -, -⟩
  · cases hout.symm.trans hcall
    exact ⟨h.recache hpipes (by rw [hdepths]; exact h.memo.depthStencil), .refl t⟩
  · cases hout.symm.trans hcall
    cases hdevice.symm.trans hdevice'
    obtain ⟨hafter, hnothing⟩ := h.call_quiet (.compileDepthStencil dkey)
      (by simp [Request.kind]) (fun key layout => by simp)
    refine ⟨hafter.recache hpipes fun dkey' q hq => ?_, hnothing⟩
    rw [hdepths, Table.get?_insert] at hq
    split at hq
    · rename_i hsame
      cases hq
      rw [hsame]
    · exact h.memo.depthStencil dkey' q hq
  · cases hdevice.symm.trans hdevice'

/-- Resolving the state of a draw keeps what is remembered, and draws nothing. -/
theorem resolve (h : Remembers config log cache layouts t) {s : Snapshot} {topology : Topology}
    {handle : Option LayoutHandle}
    (hregistered : ∀ handle', handle = some handle' → (layouts.records.get? handle').isSome)
    {answer : Except Fault (DrawConfig GpuPipeline GpuDepthStencil)}
    (hcall : DrawConfig.resolve s ⟨config.colorFormat, config.effectiveSamples, topology, handle⟩
      (layouts.native handle) cache t = (answer, cache', t')) :
    Remembers config log cache' layouts t' ∧ t.DrawsNothing t' := by
  have hsamples : (PipelineKey.of s ⟨config.colorFormat, config.effectiveSamples, topology,
      handle⟩).sampleCount = config.effectiveSamples := max_max_one config.sampleCount
  rcases DrawConfig.resolve_cases s
      ⟨config.colorFormat, config.effectiveSamples, topology, handle⟩ (layouts.native handle) cache
      t with ⟨fault, -, hout⟩ | ⟨fault, cache₁, t₁, hp, hout⟩ |
      ⟨p, fault, cache₁, t₁, cache₂, t₂, hp, hq, hout⟩ |
        ⟨p, q, cache₁, t₁, cache₂, t₂, hp, hq, hout⟩
  · cases hout.symm.trans hcall
    exact ⟨h, .refl t⟩
  · cases hout.symm.trans hcall
    exact h.pipeline hregistered rfl hsamples hp
  · cases hout.symm.trans hcall
    obtain ⟨hmiddle, hnothing⟩ := h.pipeline hregistered rfl hsamples hp
    obtain ⟨hafter, hnothing'⟩ := hmiddle.depthStencil hq
    exact ⟨hafter, hnothing.trans hnothing'⟩
  · cases hout.symm.trans hcall
    obtain ⟨hmiddle, hnothing⟩ := h.pipeline hregistered rfl hsamples hp
    obtain ⟨hafter, hnothing'⟩ := hmiddle.depthStencil hq
    exact ⟨hafter, hnothing.trans hnothing'⟩

/-! ### Drawing -/

/-- A draw whose objects are cached keeps what is remembered, and draws with the pipeline of its
keys. -/
theorem encodeDraw (h : Remembers config log cache layouts t) {s : Snapshot} {target : DrawTarget}
    {q : GpuDepthStencil} (hp : cache.pipelines.get? (.of s target) = some p)
    (hq : cache.depthStencils.get? (.of s) = some q) (call : DrawCall)
    (hvertex : p.template.hasVertexInput → call.vertex.isSome) :
    Remembers config log cache layouts
        (Device.encodeDraw (DrawConfig.of s target p q) call t).2 ∧
      ∃ events,
        (Traced.ledger (Device.encodeDraw (DrawConfig.of s target p q) call t).2).events =
          t.ledger.events ++ events ∧
        DrawsWith t.ledger.events events (p.template.describe (.of (DepthStencilKey.of s))) := by
  obtain rfl := h.memo.depthStencil _ q hq
  obtain ⟨builds, events, hasked, hundrawn, hbuilt⟩ :=
    GpuDevice.realize_asked h.memo rfl rfl rfl hp (DepthStencilKey.of s)
  obtain ⟨builds', events', hasked', hdraws⟩ : ∃ builds events,
      GpuDevice.Asked cache layouts t.ledger (.of s target, .of s) t.device
        (GpuDevice.encodeDraw (.of s target p (.of (DepthStencilKey.of s))) call t.device).2
        builds events ∧
      DrawsWith t.ledger.events events (p.template.describe (.of (DepthStencilKey.of s))) := by
    rcases GpuDevice.encodeDraw_cases (.of s target p (.of (DepthStencilKey.of s))) call
        hvertex h.targets with
      ⟨fault, d, hrealize, hout⟩ | ⟨number, d₁, d, hrealize, hout, hencoded⟩
    · change GpuDevice.realize p (.of (DepthStencilKey.of s)) t.device = _ at hrealize
      rw [hrealize] at hasked
      rw [hout]
      exact ⟨builds, events, hasked, .of_not_isDraw hundrawn⟩
    · change GpuDevice.realize p (.of (DepthStencilKey.of s)) t.device = _ at hrealize
      rw [hrealize] at hasked hbuilt
      rw [hout]
      obtain ⟨rest, hasked', hdraws⟩ := hasked.encoded hencoded (hbuilt number rfl)
      exact ⟨builds, events ++ rest, hasked', hdraws.prepend hundrawn⟩
  obtain ⟨hafter, hevents⟩ := h.ask
    (e := .of (.encodeDraw (.of s target p (.of (DepthStencilKey.of s))) call) t.device)
    rfl rfl hasked'
  exact ⟨hafter, events', hevents, hdraws⟩

end Remembers

end RenderBridge
