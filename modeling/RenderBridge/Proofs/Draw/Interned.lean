import RenderBridge.Proofs.Context.Work
import RenderBridge.Proofs.Device.Heap
/-!
Compiled objects and their keys, on a device in host memory.

* `compiledPipelines`, `compiledDepthStencils`: the keys compiled in a trace.
* `Cache.Interned`: objects are kept under their own keys, with numbers of their own, and no key is
  compiled twice.
* `Op.apply_interned`, `Step.run_interned`: **every operation keeps it**, and so does every run.
* `Step.attempts_run`: no run takes attempts back.
* `Step.runCounted`, `Step.runCounted_eq_some_iff`: runs that stop where a count of attempts
  overflows.
-/

set_option autoImplicit false

namespace RenderBridge

/-! ### Keys compiled in a trace -/

section

variable {δ P D : Type}

/-- The pipeline key that a call compiles, where it succeeds. -/
def Exchange.compiledPipeline (e : Exchange δ P D) : Option PipelineKey :=
  match e.request with
  | .compilePipeline key _ => if e.accepted then some key else none
  | _ => none

/-- The depth-stencil key that a call compiles, where it succeeds. -/
def Exchange.compiledDepthStencil (e : Exchange δ P D) : Option DepthStencilKey :=
  match e.request with
  | .compileDepthStencil key => if e.accepted then some key else none
  | _ => none

/-- The pipeline keys compiled in a trace. -/
def compiledPipelines (es : List (Exchange δ P D)) : List PipelineKey :=
  es.filterMap (·.compiledPipeline)

/-- The depth-stencil keys compiled in a trace. -/
def compiledDepthStencils (es : List (Exchange δ P D)) : List DepthStencilKey :=
  es.filterMap (·.compiledDepthStencil)

lemma compiledPipelines_append (es : List (Exchange δ P D)) (e : Exchange δ P D) :
    compiledPipelines (es ++ [e]) = compiledPipelines es ++ e.compiledPipeline.toList := by
  rw [compiledPipelines, List.filterMap_append, compiledPipelines]
  cases h : e.compiledPipeline <;> simp [h]

lemma compiledDepthStencils_append (es : List (Exchange δ P D)) (e : Exchange δ P D) :
    compiledDepthStencils (es ++ [e]) =
      compiledDepthStencils es ++ e.compiledDepthStencil.toList := by
  rw [compiledDepthStencils, List.filterMap_append, compiledDepthStencils]
  cases h : e.compiledDepthStencil <;> simp [h]

/-- Calls that do not compile compile no key. -/
lemma Exchange.compiled_of_kind_ne {e : Exchange δ P D} (h : e.request.kind ≠ .compiling) :
    e.compiledPipeline = none ∧ e.compiledDepthStencil = none := by
  rw [compiledPipeline, compiledDepthStencil]
  cases hrequest : e.request with
  | compilePipeline => exact absurd (by rw [hrequest]; rfl) h
  | compileDepthStencil => exact absurd (by rw [hrequest]; rfl) h
  | _ => exact ⟨rfl, rfl⟩

end

/-! ### Compiling on a device in host memory -/

/-- The word behind that of a number is that of the next, where there is one. -/
lemma toNat_ofNat_add_one {n : ℕ} (h : n + 1 < UInt32.size) :
    (UInt32.ofNat n + 1).toNat = n + 1 := by
  have hn : (UInt32.ofNat n).toNat = n := UInt32.toNat_ofNat_of_lt (Nat.lt_of_succ_lt h)
  rw [UInt32.toNat_add, hn]
  exact Nat.mod_eq_of_lt h

/-- Both tables of a cache beside what a device has compiled. -/
structure Cache.Interned (cache : Cache CompiledPipeline CompiledDepthStencil) (t : HostDevice) :
    Prop where
  pipelines : RenderBridge.Interned CompiledPipeline.key CompiledPipeline.id cache.pipelines
    t.device.memory.pipelineCompilations (compiledPipelines t.exchanges)
  depthStencils : RenderBridge.Interned CompiledDepthStencil.key CompiledDepthStencil.id
    cache.depthStencils t.device.memory.depthStencilCompilations
    (compiledDepthStencils t.exchanges)

namespace HostDevice

/-- What compiling a pipeline does. -/
lemma compilePipeline_cases (key : PipelineKey) (layout : Option VertexLayout) (t : HostDevice) :
    ∃ answer t', Device.compilePipeline key layout t = (answer, t') ∧
      t'.device.memory.pipelineCompilations = t.device.memory.pipelineCompilations + 1 ∧
      t'.device.memory.depthStencilCompilations = t.device.memory.depthStencilCompilations ∧
      compiledDepthStencils t'.exchanges = compiledDepthStencils t.exchanges ∧
      ((answer = .ok ⟨t.device.memory.pipelineCount + 1, key⟩ ∧
          compiledPipelines t'.exchanges = compiledPipelines t.exchanges ++ [key]) ∨
        ((∃ fault, answer = .error fault) ∧
          compiledPipelines t'.exchanges = compiledPipelines t.exchanges)) := by
  have hcall : Device.compilePipeline key layout t = t.call (.compilePipeline key layout) := rfl
  have hinner : (Request.compilePipeline key layout : HostRequest).perform t.device =
      FaultyDevice.direct (MemoryDevice.compilePipeline key) t.device := rfl
  rw [FaultyDevice.direct, MemoryDevice.compilePipeline] at hinner
  by_cases hfail : t.device.memory.failPipelines = 0
  · rw [if_pos hfail] at hinner
    rw [hcall, Traced.call_eq hinner]
    refine ⟨_, _, rfl, rfl, rfl, ?_⟩
    rw [compiledPipelines_append, compiledDepthStencils_append]
    exact ⟨List.append_nil _, .inl ⟨rfl, rfl⟩⟩
  · rw [if_neg hfail] at hinner
    rw [hcall, Traced.call_eq hinner]
    refine ⟨_, _, rfl, rfl, rfl, ?_⟩
    rw [compiledPipelines_append, compiledDepthStencils_append]
    exact ⟨List.append_nil _, .inr ⟨⟨_, rfl⟩, List.append_nil _⟩⟩

/-- What compiling a depth-stencil object does. -/
lemma compileDepthStencil_cases (key : DepthStencilKey) (t : HostDevice) :
    ∃ answer t', Device.compileDepthStencil key t = (answer, t') ∧
      t'.device.memory.depthStencilCompilations = t.device.memory.depthStencilCompilations + 1 ∧
      t'.device.memory.pipelineCompilations = t.device.memory.pipelineCompilations ∧
      compiledPipelines t'.exchanges = compiledPipelines t.exchanges ∧
      ((answer = .ok ⟨t.device.memory.depthStencilCount + 1, key⟩ ∧
          compiledDepthStencils t'.exchanges = compiledDepthStencils t.exchanges ++ [key]) ∨
        ((∃ fault, answer = .error fault) ∧
          compiledDepthStencils t'.exchanges = compiledDepthStencils t.exchanges)) := by
  have hcall : Device.compileDepthStencil key t = t.call (.compileDepthStencil key) := rfl
  have hinner : (Request.compileDepthStencil key : HostRequest).perform t.device =
      FaultyDevice.direct (MemoryDevice.compileDepthStencil key) t.device := rfl
  rw [FaultyDevice.direct, MemoryDevice.compileDepthStencil] at hinner
  by_cases hfail : t.device.memory.failDepthStencils = 0
  · rw [if_pos hfail] at hinner
    rw [hcall, Traced.call_eq hinner]
    refine ⟨_, _, rfl, rfl, rfl, ?_⟩
    rw [compiledPipelines_append, compiledDepthStencils_append]
    exact ⟨List.append_nil _, .inl ⟨rfl, rfl⟩⟩
  · rw [if_neg hfail] at hinner
    rw [hcall, Traced.call_eq hinner]
    refine ⟨_, _, rfl, rfl, rfl, ?_⟩
    rw [compiledPipelines_append, compiledDepthStencils_append]
    exact ⟨List.append_nil _, .inr ⟨⟨_, rfl⟩, List.append_nil _⟩⟩

end HostDevice

namespace Cache.Interned

variable {cache cache' : Cache CompiledPipeline CompiledDepthStencil} {t t' : HostDevice}

lemma empty {t : HostDevice} (hexchanges : t.exchanges = []) : Interned {} t := by
  constructor
  · rw [hexchanges]
    exact RenderBridge.Interned.empty.mono (Nat.zero_le _)
  · rw [hexchanges]
    exact RenderBridge.Interned.empty.mono (Nat.zero_le _)

/-- Other calls compile nothing. -/
lemma keeps (cache : Cache CompiledPipeline CompiledDepthStencil) {kinds : List CallKind}
    (h : .compiling ∉ kinds) : Keeps (fun t : HostDevice => cache.Interned t) kinds := by
  intro request hkind t ht
  have hne : (Exchange.of request t.device).request.kind ≠ .compiling := fun heq => h (heq ▸ hkind)
  obtain ⟨hpipeline, hdepthStencil⟩ := Exchange.compiled_of_kind_ne hne
  have hcounts : Keeps (fun d : FaultyDevice =>
      d.memory.pipelineCompilations = t.device.memory.pipelineCompilations ∧
      d.memory.depthStencilCompilations = t.device.memory.depthStencilCompilations) kinds := by
    refine FaultyDevice.keeps_memory (I := fun m : MemoryDevice =>
      m.pipelineCompilations = _ ∧ m.depthStencilCompilations = _)
      (MemoryDevice.keeps_of_changes ?_)
    intro kind hkind d d' hchanges hd
    cases hchanges with
    | compiling => exact absurd hkind h
    | _ => exact hd
  obtain ⟨hp, hq⟩ := hcounts request hkind t.device ⟨rfl, rfl⟩
  rw [Traced.perform_eq_call, Traced.call]
  dsimp only
  constructor
  · rw [hp, compiledPipelines_append, hpipeline, Option.toList_none, List.append_nil]
    exact ht.pipelines
  · rw [hq, compiledDepthStencils_append, hdepthStencil, Option.toList_none, List.append_nil]
    exact ht.depthStencils

lemma pipeline {key : PipelineKey} {layout : Option VertexLayout}
    {answer : Except Fault CompiledPipeline} (h : cache.Interned t)
    (hcall : cache.pipeline key layout t = (answer, cache', t')) : cache'.Interned t' := by
  obtain ⟨result, t₁, hdevice, hattempts, hother, hothers, hresult⟩ :=
    t.compilePipeline_cases key layout
  rcases cache.pipeline_cases key layout t with
    ⟨p, cache₁, -, hout, hpipes, hdepths⟩ |
      ⟨p, cache₁, t₂, hfree, hdevice', hout, hpipes, hdepths⟩ |
        ⟨reason, fault, cache₁, t₂, -, hdevice', hout, hpipes, hdepths⟩
  · cases hout.symm.trans hcall
    exact ⟨by rw [hpipes]; exact h.pipelines, by rw [hdepths]; exact h.depthStencils⟩
  · cases hout.symm.trans hcall
    cases hdevice.symm.trans hdevice'
    constructor
    · rcases hresult with ⟨hok, hkeys⟩ | ⟨⟨fault, herror⟩, -⟩
      · obtain rfl := Except.ok.inj hok
        rw [hpipes, hattempts, hkeys]
        exact h.pipelines.insert (v := ⟨_, key⟩) hfree toNat_ofNat_add_one
      · cases herror
    · rw [hdepths, hother, hothers]
      exact h.depthStencils
  · cases hout.symm.trans hcall
    cases hdevice.symm.trans hdevice'
    constructor
    · rcases hresult with ⟨hok, -⟩ | ⟨-, hkeys⟩
      · cases hok
      · rw [hpipes, hattempts, hkeys]
        exact h.pipelines.mono (Nat.le_succ _)
    · rw [hdepths, hother, hothers]
      exact h.depthStencils

lemma depthStencil {key : DepthStencilKey} {answer : Except Fault CompiledDepthStencil}
    (h : cache.Interned t) (hcall : cache.depthStencil key t = (answer, cache', t')) :
    cache'.Interned t' := by
  obtain ⟨result, t₁, hdevice, hattempts, hother, hothers, hresult⟩ :=
    t.compileDepthStencil_cases key
  rcases cache.depthStencil_cases key t with
    ⟨q, cache₁, -, hout, hpipes, hdepths⟩ |
      ⟨q, cache₁, t₂, hfree, hdevice', hout, hpipes, hdepths⟩ |
        ⟨reason, fault, cache₁, t₂, -, hdevice', hout, hpipes, hdepths⟩
  · cases hout.symm.trans hcall
    exact ⟨by rw [hpipes]; exact h.pipelines, by rw [hdepths]; exact h.depthStencils⟩
  · cases hout.symm.trans hcall
    cases hdevice.symm.trans hdevice'
    constructor
    · rw [hpipes, hother, hothers]
      exact h.pipelines
    · rcases hresult with ⟨hok, hkeys⟩ | ⟨⟨fault, herror⟩, -⟩
      · obtain rfl := Except.ok.inj hok
        rw [hdepths, hattempts, hkeys]
        exact h.depthStencils.insert (v := ⟨_, key⟩) hfree toNat_ofNat_add_one
      · cases herror
  · cases hout.symm.trans hcall
    cases hdevice.symm.trans hdevice'
    constructor
    · rw [hpipes, hother, hothers]
      exact h.pipelines
    · rcases hresult with ⟨hok, -⟩ | ⟨-, hkeys⟩
      · cases hok
      · rw [hdepths, hattempts, hkeys]
        exact h.depthStencils.mono (Nat.le_succ _)

lemma resolve {s : Snapshot} {target : DrawTarget} {layout : Option VertexLayout}
    {answer : Except Fault (DrawConfig CompiledPipeline CompiledDepthStencil)}
    (h : cache.Interned t)
    (hcall : DrawConfig.resolve s target layout cache t = (answer, cache', t')) :
    cache'.Interned t' := by
  rcases DrawConfig.resolve_cases s target layout cache t with
    ⟨fault, -, hout⟩ | ⟨fault, cache₁, t₁, hp, hout⟩ |
      ⟨p, fault, cache₁, t₁, cache₂, t₂, hp, hq, hout⟩ |
        ⟨p, q, cache₁, t₁, cache₂, t₂, hp, hq, hout⟩
  · cases hout.symm.trans hcall
    exact h
  · cases hout.symm.trans hcall
    exact h.pipeline hp
  · cases hout.symm.trans hcall
    exact (h.pipeline hp).depthStencil hq
  · cases hout.symm.trans hcall
    exact (h.pipeline hp).depthStencil hq

end Cache.Interned

/-! ### Operations and runs -/

/-- Every operation keeps compiled objects under their keys, each key compiled once. -/
theorem Op.apply_interned (op : Op) {c : HostContext HostDevice} (h : c.cache.Interned c.device) :
    (op.apply c).2.cache.Interned (op.apply c).2.device := by
  by_cases hcompile : .compiling ∈ op.calls
  · have hdraw : .drawing ∈ op.calls := by
      cases op with
      | draw => simp [calls]
      | drawIndexed => simp [calls]
      | _ => simp [calls] at hcompile
    rcases op.draw_cases c hdraw with ⟨topology, kind, -, hcall⟩ | ⟨-, hsame⟩
    · rw [hcall, replyWith_snd]
      rcases c.drawUnit_cases topology kind with ⟨fault, -, hcall⟩ |
          ⟨inputs, fault, cache, t, -, hresolve, hcall⟩ |
            ⟨inputs, config, cache, t, -, hresolve, hcall⟩
      · rw [hcall]
        exact h
      · rw [hcall]
        exact h.resolve hresolve
      · rw [hcall, Context.submitUnit_snd]
        have hdraws : Keeps (fun t : HostDevice => cache.Interned t) [.drawing] :=
          Cache.Interned.keeps cache (by simp)
        refine FrameSerial.submit_keeps (Cache.Interned.keeps cache (by simp)) ?_ _
        exact hdraws (.encodeDraw config ⟨kind, inputs.vertex, inputs.index⟩)
          (List.mem_singleton.mpr rfl) t (h.resolve hresolve)
    · rw [hsame]
      exact h
  · rw [(op.changes_apply c).cache_eq hcompile]
    exact op.apply_keeps (Cache.Interned.keeps c.cache hcompile) c h

namespace Step

theorem apply_interned (step : Step Arming) {c : HostContext HostDevice}
    (h : c.cache.Interned c.device) : (step.apply c).cache.Interned (step.apply c).device := by
  cases step with
  | perform op => exact op.apply_interned h
  | adjust arming =>
    obtain ⟨p, s, e, hmemory⟩ :=
      c.device.device.arm_memory arming.point arming.count arming.fault
    have hpipelines := congrArg MemoryDevice.pipelineCompilations hmemory
    have hdepthStencils := congrArg MemoryDevice.depthStencilCompilations hmemory
    constructor
    · change RenderBridge.Interned _ _ _
        (c.device.device.arm arming.point arming.count
          arming.fault).memory.pipelineCompilations _
      rw [hpipelines]
      exact h.pipelines
    · change RenderBridge.Interned _ _ _
        (c.device.device.arm arming.point arming.count
          arming.fault).memory.depthStencilCompilations _
      rw [hdepthStencils]
      exact h.depthStencils
  | setUi _ | setHost _ => exact h

/-- Every run keeps compiled objects under their keys, each key compiled once. -/
theorem run_interned (steps : List (Step Arming)) {c : HostContext HostDevice}
    (h : c.cache.Interned c.device) : (run steps c).cache.Interned (run steps c).device :=
  run_induction (I := fun c : HostContext HostDevice => c.cache.Interned c.device)
    (fun step _ hc => step.apply_interned hc) steps h

end Step

/-! ### Counting in 32 bits -/

/-- Neither count of attempts to compile has overflowed. -/
def MemoryDevice.CountsFit (d : MemoryDevice) : Prop :=
  d.pipelineCompilations < UInt32.size ∧ d.depthStencilCompilations < UInt32.size

instance (d : MemoryDevice) : Decidable d.CountsFit := inferInstanceAs (Decidable (_ ∧ _))

/-- A fresh device has counted nothing. -/
lemma FaultyDevice.Fresh.countsFit {d : FaultyDevice} (h : d.Fresh) : d.memory.CountsFit := by
  rw [MemoryDevice.CountsFit, h.pipelines, h.depthStencils]
  decide

/-- No call takes attempts back. -/
lemma FaultyDevice.keeps_attempts (p q : ℕ) (kinds : List CallKind) :
    Keeps (fun d : FaultyDevice =>
      p ≤ d.memory.pipelineCompilations ∧ q ≤ d.memory.depthStencilCompilations) kinds := by
  refine keeps_memory (I := fun m : MemoryDevice =>
    p ≤ m.pipelineCompilations ∧ q ≤ m.depthStencilCompilations)
    (MemoryDevice.keeps_of_changes ?_)
  intro kind _ d d' hchanges hd
  cases hchanges with
  | compiling _ _ _ _ hp hq => exact ⟨hd.1.trans hp, hd.2.trans hq⟩
  | _ => exact hd

namespace Step

/-- A step with checked counts. Nothing comes after one in which a count overflows. -/
def applyCounted (step : Step Arming) (c : HostContext FaultyDevice) :
    Option (HostContext FaultyDevice) :=
  if (step.apply c).device.memory.CountsFit then some (step.apply c) else none

/-- A run with checked counts, up to the first that overflows. -/
def runCounted : List (Step Arming) → HostContext FaultyDevice → Option (HostContext FaultyDevice)
  | [], c => some c
  | step :: steps, c => (step.applyCounted c).bind (runCounted steps)

/-- Every step leaves at least the attempts that there were. -/
lemma attempts_apply (step : Step Arming) {p q : ℕ} {c : HostContext FaultyDevice}
    (h : p ≤ c.device.memory.pipelineCompilations ∧ q ≤ c.device.memory.depthStencilCompilations) :
    p ≤ (step.apply c).device.memory.pipelineCompilations ∧
      q ≤ (step.apply c).device.memory.depthStencilCompilations := by
  cases step with
  | perform op => exact op.apply_keeps (FaultyDevice.keeps_attempts p q op.calls) c h
  | adjust arming =>
    obtain ⟨_, _, _, hmemory⟩ := c.device.arm_memory arming.point arming.count arming.fault
    change p ≤ (c.device.arm ..).memory.pipelineCompilations ∧
      q ≤ (c.device.arm ..).memory.depthStencilCompilations
    rw [hmemory]
    exact h
  | setUi _ | setHost _ => exact h

/-- So does every run. -/
lemma attempts_run (steps : List (Step Arming)) (c : HostContext FaultyDevice) :
    c.device.memory.pipelineCompilations ≤ (run steps c).device.memory.pipelineCompilations ∧
      c.device.memory.depthStencilCompilations ≤
        (run steps c).device.memory.depthStencilCompilations :=
  run_induction (I := fun c' : HostContext FaultyDevice =>
      c.device.memory.pipelineCompilations ≤ c'.device.memory.pipelineCompilations ∧
        c.device.memory.depthStencilCompilations ≤ c'.device.memory.depthStencilCompilations)
    (fun step _ hc => step.attempts_apply hc) steps ⟨le_rfl, le_rfl⟩

/-- Counts that are words after a run were words before it. -/
lemma countsFit_of_run {steps : List (Step Arming)} {c : HostContext FaultyDevice}
    (h : (run steps c).device.memory.CountsFit) : c.device.memory.CountsFit := by
  obtain ⟨hp, hq⟩ := attempts_run steps c
  exact ⟨hp.trans_lt h.1, hq.trans_lt h.2⟩

/-- A run with checked counts is the run, and gets to the end exactly where the counts at its end
are words. -/
theorem runCounted_eq_some_iff {steps : List (Step Arming)} {c c' : HostContext FaultyDevice}
    (hc : c.device.memory.CountsFit) :
    runCounted steps c = some c' ↔ run steps c = c' ∧ c'.device.memory.CountsFit := by
  induction steps generalizing c with
  | nil =>
    rw [runCounted, run_nil, Option.some_inj]
    exact ⟨fun h => ⟨h, h ▸ hc⟩, And.left⟩
  | cons step steps ih =>
    rw [runCounted, applyCounted, run_cons]
    by_cases hfit : (step.apply c).device.memory.CountsFit
    · rw [if_pos hfit, Option.bind_some]
      exact ih hfit
    · rw [if_neg hfit, Option.bind_none]
      refine ⟨nofun, ?_⟩
      rintro ⟨rfl, hend⟩
      exact absurd (countsFit_of_run hend) hfit

end Step

end RenderBridge
