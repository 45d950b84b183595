import RenderBridge.Proofs.Context.Unit
import RenderBridge.Proofs.Draw.Interned
import RenderBridge.Proofs.Table
/-!
The counts of a cache, balanced against what a device in host memory was asked to compile.

* `Attempts`: the attempts to compile objects of one kind, by what came of them.
* `Cache.Balanced`: the counts of a cache beside the attempts and the look-ups that were due.
* `Op.looksUp`, `Step.lookUps`: the draws that get as far as looking their objects up.
* `CacheStats.AtMost`: counts that only grow.
* `statistics_balance`: **the counts balance after every run**, and no run takes anything back.
-/

set_option autoImplicit false

namespace RenderBridge

/-! ### Attempts to compile -/

/-- The attempts to compile objects of one kind: how many the device counted, the keys that were
compiled, and how many attempts were refused. -/
structure Attempts (κ : Type) where
  made : ℕ
  compiled : List κ
  refused : ℕ

namespace Attempts

variable {κ ν : Type}

/-- One more attempt, which compiles a key. -/
def compile (k : κ) (a : Attempts κ) : Attempts κ := ⟨a.made + 1, a.compiled ++ [k], a.refused⟩

/-- One more attempt, which is refused. -/
def refuse (a : Attempts κ) : Attempts κ := ⟨a.made + 1, a.compiled, a.refused + 1⟩

/-- As many objects are kept as keys were compiled, and every other attempt was refused. -/
structure Kept (a : Attempts κ) (objects : Table κ ν) : Prop where
  size_eq : objects.size = a.compiled.length
  made_eq : a.made = a.compiled.length + a.refused

end Attempts

namespace Attempts.Kept

variable {κ ν : Type} [DecidableEq κ] {a : Attempts κ} {objects : Table κ ν}

lemma compile (h : a.Kept objects) {k : κ} (hfree : objects.get? k = none) (v : ν) :
    (a.compile k).Kept (objects.insert k v) where
  size_eq := by
    rw [Table.size_insert_of_free hfree, h.size_eq, Attempts.compile, List.length_append]
    rfl
  made_eq := by
    have hmade := h.made_eq
    rw [Attempts.compile, List.length_append, List.length_singleton]
    dsimp only
    omega

omit [DecidableEq κ] in
lemma refuse (h : a.Kept objects) : a.refuse.Kept objects where
  size_eq := h.size_eq
  made_eq := congrArg (· + 1) h.made_eq

end Attempts.Kept

section

variable {δ P D : Type}

/-- A pipeline was asked for, and refused. -/
def Exchange.refusesPipeline (e : Exchange δ P D) : Bool :=
  match e.request with
  | .compilePipeline .. => !e.accepted
  | _ => false

/-- A depth-stencil object was asked for, and refused. -/
def Exchange.refusesDepthStencil (e : Exchange δ P D) : Bool :=
  match e.request with
  | .compileDepthStencil _ => !e.accepted
  | _ => false

/-- Calls that do not compile refuse no compilation. -/
lemma Exchange.refuses_of_kind_ne {e : Exchange δ P D} (h : e.request.kind ≠ .compiling) :
    e.refusesPipeline = false ∧ e.refusesDepthStencil = false := by
  rw [refusesPipeline, refusesDepthStencil]
  cases hrequest : e.request with
  | compilePipeline => exact absurd (by rw [hrequest]; rfl) h
  | compileDepthStencil => exact absurd (by rw [hrequest]; rfl) h
  | _ => exact ⟨rfl, rfl⟩

/-- How many pipelines were refused in a trace. -/
def refusedPipelines (es : List (Exchange δ P D)) : ℕ := es.countP (·.refusesPipeline)

/-- How many depth-stencil objects were refused in a trace. -/
def refusedDepthStencils (es : List (Exchange δ P D)) : ℕ := es.countP (·.refusesDepthStencil)

lemma refusedPipelines_concat (es : List (Exchange δ P D)) (e : Exchange δ P D) :
    refusedPipelines (es ++ [e]) = refusedPipelines es + e.refusesPipeline.toNat := by
  rw [refusedPipelines, List.countP_append, List.countP_singleton]
  cases e.refusesPipeline <;> rfl

lemma refusedDepthStencils_concat (es : List (Exchange δ P D)) (e : Exchange δ P D) :
    refusedDepthStencils (es ++ [e]) = refusedDepthStencils es + e.refusesDepthStencil.toNat := by
  rw [refusedDepthStencils, List.countP_append, List.countP_singleton]
  cases e.refusesDepthStencil <;> rfl

end

/-- What a call notes, after its answer. -/
lemma Traced.exchanges_of_call {δ P D : Type} [Device δ P D] (request : Request P D)
    {t t' : Traced δ P D} {answer : Except DeviceFault request.Answer}
    (h : t.call request = (answer, t')) :
    t'.exchanges = t.exchanges ++ [⟨request, answer.isOk, t.device, t'.device⟩] := by
  rcases hdevice : request.perform t.device with ⟨answer', d⟩
  rw [call_eq hdevice] at h
  cases h
  rfl

namespace HostDevice

/-- The attempts to compile pipelines. -/
def pipelineAttempts (t : HostDevice) : Attempts PipelineKey :=
  ⟨t.device.memory.pipelineCompilations, compiledPipelines t.exchanges,
    refusedPipelines t.exchanges⟩

/-- The attempts to compile depth-stencil objects. -/
def depthStencilAttempts (t : HostDevice) : Attempts DepthStencilKey :=
  ⟨t.device.memory.depthStencilCompilations, compiledDepthStencils t.exchanges,
    refusedDepthStencils t.exchanges⟩

/-- What an attempt to compile a pipeline adds to the trace. -/
lemma compilePipeline_attempts (key : PipelineKey) (layout : Option VertexLayout)
    (t : HostDevice) :
    ∃ answer t', Device.compilePipeline key layout t = (answer, t') ∧
      t'.depthStencilAttempts = t.depthStencilAttempts ∧
      ((∃ p, answer = .ok p ∧ t'.pipelineAttempts = t.pipelineAttempts.compile key) ∨
        ∃ fault, answer = .error fault ∧ t'.pipelineAttempts = t.pipelineAttempts.refuse) := by
  obtain ⟨answer, t', hcall, hmade, hother, hkeys', hresult⟩ := t.compilePipeline_cases key layout
  have hnoted : t'.exchanges =
      t.exchanges ++ [⟨.compilePipeline key layout, answer.isOk, t.device, t'.device⟩] :=
    Traced.exchanges_of_call (.compilePipeline key layout) hcall
  refine ⟨answer, t', hcall, ?_, ?_⟩
  · rw [depthStencilAttempts, hother, hkeys', hnoted, refusedDepthStencils_concat]
    rfl
  · rw [pipelineAttempts, pipelineAttempts, hmade, hnoted, refusedPipelines_concat, ← hnoted]
    rcases hresult with ⟨rfl, hkeys⟩ | ⟨⟨fault, rfl⟩, hkeys⟩
    · rw [hkeys]
      exact .inl ⟨_, rfl, rfl⟩
    · rw [hkeys]
      exact .inr ⟨fault, rfl, rfl⟩

/-- What an attempt to compile a depth-stencil object adds to the trace. -/
lemma compileDepthStencil_attempts (key : DepthStencilKey) (t : HostDevice) :
    ∃ answer t', Device.compileDepthStencil key t = (answer, t') ∧
      t'.pipelineAttempts = t.pipelineAttempts ∧
      ((∃ q, answer = .ok q ∧ t'.depthStencilAttempts = t.depthStencilAttempts.compile key) ∨
        ∃ fault, answer = .error fault ∧
          t'.depthStencilAttempts = t.depthStencilAttempts.refuse) := by
  obtain ⟨answer, t', hcall, hmade, hother, hkeys', hresult⟩ := t.compileDepthStencil_cases key
  have hnoted : t'.exchanges =
      t.exchanges ++ [⟨.compileDepthStencil key, answer.isOk, t.device, t'.device⟩] :=
    Traced.exchanges_of_call (.compileDepthStencil key) hcall
  refine ⟨answer, t', hcall, ?_, ?_⟩
  · rw [pipelineAttempts, hother, hkeys', hnoted, refusedPipelines_concat]
    rfl
  · rw [depthStencilAttempts, depthStencilAttempts, hmade, hnoted, refusedDepthStencils_concat,
      ← hnoted]
    rcases hresult with ⟨rfl, hkeys⟩ | ⟨⟨fault, rfl⟩, hkeys⟩
    · rw [hkeys]
      exact .inl ⟨_, rfl, rfl⟩
    · rw [hkeys]
      exact .inr ⟨fault, rfl, rfl⟩

/-- Calls that compile nothing leave the attempts as they are. -/
lemma keeps_attempts (ps : Attempts PipelineKey) (qs : Attempts DepthStencilKey)
    {kinds : List CallKind} (hkinds : .compiling ∉ kinds) :
    Keeps (fun t : HostDevice => t.pipelineAttempts = ps ∧ t.depthStencilAttempts = qs) kinds := by
  rintro request hkind t ⟨rfl, rfl⟩
  have hcounts : Keeps (fun d : FaultyDevice =>
      d.memory.pipelineCompilations = t.device.memory.pipelineCompilations ∧
      d.memory.depthStencilCompilations = t.device.memory.depthStencilCompilations) kinds := by
    refine FaultyDevice.keeps_memory (I := fun m : MemoryDevice =>
      m.pipelineCompilations = _ ∧ m.depthStencilCompilations = _)
      (MemoryDevice.keeps_of_changes ?_)
    intro kind hkind d d' hchanges hd
    cases hchanges with
    | compiling => exact absurd hkind hkinds
    | _ => exact hd
  obtain ⟨hp, hq⟩ := hcounts request hkind t.device ⟨rfl, rfl⟩
  have hne : request.kind ≠ .compiling := fun heq => hkinds (heq ▸ hkind)
  obtain ⟨hpkeys, hqkeys⟩ := Exchange.compiled_of_kind_ne (e := .of request t.device) hne
  obtain ⟨hprefused, hqrefused⟩ := Exchange.refuses_of_kind_ne (e := .of request t.device) hne
  rw [Traced.perform_eq_call, Traced.call, pipelineAttempts, depthStencilAttempts]
  dsimp only
  rw [hp, hq, compiledPipelines_append, compiledDepthStencils_append, hpkeys, hqkeys,
    refusedPipelines_concat, refusedDepthStencils_concat, hprefused, hqrefused, Option.toList_none,
    List.append_nil, Option.toList_none, List.append_nil]
  exact ⟨rfl, rfl⟩

end HostDevice

/-! ### The counts of a cache -/

/-- The counts of a cache beside the attempts to compile and the look-ups that were due. A draw is
due two look-ups; the second is left out where the pipeline is refused. -/
structure Cache.Balanced (cache : Cache CompiledPipeline CompiledDepthStencil)
    (ps : Attempts PipelineKey) (qs : Attempts DepthStencilKey) (due : ℕ) : Prop where
  pipelines : ps.Kept cache.pipelines
  depthStencils : qs.Kept cache.depthStencils
  misses_eq : cache.misses = ps.made + qs.made
  failures_eq : cache.failures = ps.refused + qs.refused
  due_eq : cache.hits + cache.misses + ps.refused = due

/-- The counts of a cache beside what its device has noted. -/
def Cache.BalancedOn (cache : Cache CompiledPipeline CompiledDepthStencil) (t : HostDevice)
    (due : ℕ) : Prop := cache.Balanced t.pipelineAttempts t.depthStencilAttempts due

namespace Cache.BalancedOn

variable {cache cache' : Cache CompiledPipeline CompiledDepthStencil} {t t' : HostDevice} {due : ℕ}

lemma empty {t : HostDevice} (hexchanges : t.exchanges = [])
    (hpipelines : t.device.memory.pipelineCompilations = 0)
    (hdepthStencils : t.device.memory.depthStencilCompilations = 0) : BalancedOn {} t 0 := by
  rw [BalancedOn, HostDevice.pipelineAttempts, HostDevice.depthStencilAttempts, hexchanges,
    hpipelines, hdepthStencils]
  exact ⟨⟨rfl, rfl⟩, ⟨rfl, rfl⟩, rfl, rfl, rfl⟩

/-- A look-up of a pipeline is one look-up, or stands for the one it prevents as well. -/
lemma pipeline {key : PipelineKey} {layout : Option VertexLayout}
    {answer : Except Fault CompiledPipeline} (h : cache.BalancedOn t due)
    (hcall : cache.pipeline key layout t = (answer, cache', t')) :
    (answer.isOk = true ∧ cache'.BalancedOn t' (due + 1)) ∨
      (answer.isOk = false ∧ cache'.BalancedOn t' (due + 2)) := by
  obtain ⟨hpipelines, hdepthStencils, hmisses, hfailures, hdue⟩ := h
  rw [Cache.pipeline] at hcall
  cases hget : cache.pipelines.get? key with
  | some p =>
    rw [hget] at hcall
    cases hcall
    exact .inl ⟨rfl, hpipelines, hdepthStencils, hmisses, hfailures, by dsimp only; omega⟩
  | none =>
    obtain ⟨result, t₁, hdevice, hothers, hresult⟩ := t.compilePipeline_attempts key layout
    rw [hget] at hcall
    dsimp only at hcall
    rw [hdevice] at hcall
    rcases hresult with ⟨p, rfl, hattempts⟩ | ⟨fault, rfl, hattempts⟩
    · cases hcall
      refine .inl ⟨rfl, ?_⟩
      rw [BalancedOn, hothers, hattempts]
      exact ⟨hpipelines.compile hget p, hdepthStencils, by dsimp only [Attempts.compile]; omega,
        hfailures, by dsimp only [Attempts.compile]; omega⟩
    · cases hcall
      refine .inr ⟨rfl, ?_⟩
      rw [BalancedOn, hothers, hattempts]
      exact ⟨hpipelines.refuse, hdepthStencils, by dsimp only [Attempts.refuse]; omega,
        by dsimp only [Attempts.refuse]; omega, by dsimp only [Attempts.refuse]; omega⟩

/-- A look-up of a depth-stencil object is one look-up. -/
lemma depthStencil {key : DepthStencilKey} {answer : Except Fault CompiledDepthStencil}
    (h : cache.BalancedOn t due) (hcall : cache.depthStencil key t = (answer, cache', t')) :
    cache'.BalancedOn t' (due + 1) := by
  obtain ⟨hpipelines, hdepthStencils, hmisses, hfailures, hdue⟩ := h
  rw [Cache.depthStencil] at hcall
  cases hget : cache.depthStencils.get? key with
  | some q =>
    rw [hget] at hcall
    cases hcall
    exact ⟨hpipelines, hdepthStencils, hmisses, hfailures, by dsimp only; omega⟩
  | none =>
    obtain ⟨result, t₁, hdevice, hothers, hresult⟩ := t.compileDepthStencil_attempts key
    rw [hget] at hcall
    dsimp only at hcall
    rw [hdevice] at hcall
    rcases hresult with ⟨q, rfl, hattempts⟩ | ⟨fault, rfl, hattempts⟩
    · cases hcall
      rw [BalancedOn, hothers, hattempts]
      exact ⟨hpipelines, hdepthStencils.compile hget q, by dsimp only [Attempts.compile]; omega,
        hfailures, by dsimp only; omega⟩
    · cases hcall
      rw [BalancedOn, hothers, hattempts]
      exact ⟨hpipelines, hdepthStencils.refuse, by dsimp only [Attempts.refuse]; omega,
        by dsimp only [Attempts.refuse]; omega, by dsimp only; omega⟩

/-- Resolving a state that passes the checks is due two look-ups. -/
lemma resolve {s : Snapshot} {target : DrawTarget} {layout : Option VertexLayout}
    {answer : Except Fault (DrawConfig CompiledPipeline CompiledDepthStencil)}
    (h : cache.BalancedOn t due) (hcheck : s.check = .ok ())
    (hcall : DrawConfig.resolve s target layout cache t = (answer, cache', t')) :
    cache'.BalancedOn t' (due + 2) := by
  rcases DrawConfig.resolve_cases s target layout cache t with
    ⟨fault, hfault, -⟩ | ⟨fault, cache₁, t₁, hp, hout⟩ |
      ⟨p, fault, cache₁, t₁, cache₂, t₂, hp, hq, hout⟩ |
        ⟨p, q, cache₁, t₁, cache₂, t₂, hp, hq, hout⟩
  · cases hcheck.symm.trans hfault
  · cases hout.symm.trans hcall
    rcases h.pipeline hp with ⟨hok, -⟩ | ⟨-, hbalanced⟩
    · cases hok
    · exact hbalanced
  · cases hout.symm.trans hcall
    rcases h.pipeline hp with ⟨-, hbalanced⟩ | ⟨herror, -⟩
    · exact hbalanced.depthStencil hq
    · cases herror
  · cases hout.symm.trans hcall
    rcases h.pipeline hp with ⟨-, hbalanced⟩ | ⟨herror, -⟩
    · exact hbalanced.depthStencil hq
    · cases herror

/-- Calls that compile nothing keep the counts balanced. -/
lemma keeps (cache : Cache CompiledPipeline CompiledDepthStencil) (due : ℕ)
    {kinds : List CallKind} (hkinds : .compiling ∉ kinds) :
    Keeps (fun t : HostDevice => cache.BalancedOn t due) kinds := by
  intro request hkind t ht
  obtain ⟨hpipelines, hdepthStencils⟩ := HostDevice.keeps_attempts t.pipelineAttempts
    t.depthStencilAttempts hkinds request hkind t ⟨rfl, rfl⟩
  rw [BalancedOn, hpipelines, hdepthStencils]
  exact ht

end Cache.BalancedOn

/-! ### Counts that only grow -/

namespace CacheStats

/-- Counts none of which is above those of another. -/
structure AtMost (a b : CacheStats) : Prop where
  pipelines : a.pipelines ≤ b.pipelines
  depthStencils : a.depthStencils ≤ b.depthStencils
  hits : a.hits ≤ b.hits
  misses : a.misses ≤ b.misses
  failures : a.failures ≤ b.failures

namespace AtMost

variable {a b c : CacheStats}

lemma refl (a : CacheStats) : a.AtMost a := ⟨le_rfl, le_rfl, le_rfl, le_rfl, le_rfl⟩

lemma trans (h : a.AtMost b) (h' : b.AtMost c) : a.AtMost c where
  pipelines := h.pipelines.trans h'.pipelines
  depthStencils := h.depthStencils.trans h'.depthStencils
  hits := h.hits.trans h'.hits
  misses := h.misses.trans h'.misses
  failures := h.failures.trans h'.failures

end AtMost

end CacheStats

section

variable {δ P D : Type} [Device δ P D] {cache cache' : Cache P D} {d d' : δ}

namespace Cache

lemma pipeline_atMost {key : PipelineKey} {layout : Option VertexLayout} {answer : Except Fault P}
    (h : cache.pipeline key layout d = (answer, cache', d')) :
    cache.stats.AtMost cache'.stats := by
  rw [pipeline] at h
  cases hget : cache.pipelines.get? key with
  | some p =>
    rw [hget] at h
    cases h
    exact ⟨le_rfl, le_rfl, Nat.le_succ _, le_rfl, le_rfl⟩
  | none =>
    rw [hget] at h
    dsimp only at h
    split at h
    · rename_i p _ _
      cases h
      exact ⟨(Nat.le_succ _).trans_eq (Table.size_insert_of_free hget p).symm, le_rfl, le_rfl,
        Nat.le_succ _, le_rfl⟩
    · cases h
      exact ⟨le_rfl, le_rfl, le_rfl, Nat.le_succ _, Nat.le_succ _⟩

lemma depthStencil_atMost {key : DepthStencilKey} {answer : Except Fault D}
    (h : cache.depthStencil key d = (answer, cache', d')) :
    cache.stats.AtMost cache'.stats := by
  rw [depthStencil] at h
  cases hget : cache.depthStencils.get? key with
  | some q =>
    rw [hget] at h
    cases h
    exact ⟨le_rfl, le_rfl, Nat.le_succ _, le_rfl, le_rfl⟩
  | none =>
    rw [hget] at h
    dsimp only at h
    split at h
    · rename_i q _ _
      cases h
      exact ⟨le_rfl, (Nat.le_succ _).trans_eq (Table.size_insert_of_free hget q).symm, le_rfl,
        Nat.le_succ _, le_rfl⟩
    · cases h
      exact ⟨le_rfl, le_rfl, le_rfl, Nat.le_succ _, Nat.le_succ _⟩

end Cache

lemma DrawConfig.resolve_atMost {s : Snapshot} {target : DrawTarget}
    {layout : Option VertexLayout} {answer : Except Fault (DrawConfig P D)}
    (h : resolve s target layout cache d = (answer, cache', d')) :
    cache.stats.AtMost cache'.stats := by
  rcases resolve_cases s target layout cache d with
    ⟨fault, -, hcall⟩ | ⟨fault, cache₁, d₁, hp, hcall⟩ |
      ⟨p, fault, cache₁, d₁, cache₂, d₂, hp, hq, hcall⟩ |
        ⟨p, q, cache₁, d₁, cache₂, d₂, hp, hq, hcall⟩
  · cases hcall.symm.trans h
    exact .refl _
  · cases hcall.symm.trans h
    exact Cache.pipeline_atMost hp
  · cases hcall.symm.trans h
    exact (Cache.pipeline_atMost hp).trans (Cache.depthStencil_atMost hq)
  · cases hcall.symm.trans h
    exact (Cache.pipeline_atMost hp).trans (Cache.depthStencil_atMost hq)

/-- No operation lowers a count. -/
lemma Op.stats_atMost (op : Op) (c : Context δ P D) :
    c.cache.stats.AtMost (op.apply c).2.cache.stats := by
  by_cases hdraw : .drawing ∈ op.calls
  · rcases op.draw_cases c hdraw with ⟨topology, kind, -, hcall⟩ | ⟨-, hsame⟩
    · rw [hcall, replyWith_snd]
      rcases c.drawUnit_cases topology kind with ⟨fault, -, hcall⟩ |
          ⟨inputs, fault, cache, d, -, hresolve, hcall⟩ |
            ⟨inputs, config, cache, d, -, hresolve, hcall⟩
      · rw [hcall]
        exact .refl _
      · rw [hcall]
        exact DrawConfig.resolve_atMost hresolve
      · rw [hcall, Context.submitUnit_snd]
        exact DrawConfig.resolve_atMost hresolve
    · rw [hsame]
      exact .refl _
  · rw [(op.changes_apply c).cache_eq (compiling_not_mem hdraw)]
    exact .refl _

/-- No run lowers a count, and what is in the cache stays in it. -/
theorem Step.run_grows {α : Type} [Adjustable δ α] (steps : List (Step α)) (c : Context δ P D) :
    c.cache.stats.AtMost (run steps c).cache.stats ∧ c.cache.Extends (run steps c).cache := by
  refine run_induction (I := fun c' : Context δ P D =>
    c.cache.stats.AtMost c'.cache.stats ∧ c.cache.Extends c'.cache) ?_ steps ⟨.refl _, .refl _⟩
  rintro step c' ⟨hstats, hextends⟩
  cases step with
  | perform op => exact ⟨hstats.trans (op.stats_atMost c'), hextends.trans (op.cache_extends c')⟩
  | adjust change => exact ⟨hstats, hextends⟩
  | setUi _ | setHost _ => exact ⟨hstats, hextends⟩

end

/-! ### Draws that look their objects up -/

namespace Op

/-- What an operation draws, where it draws something. -/
def drawn? : Op → Option (Topology × DrawKind)
  | draw mode first count =>
    match Token.topology mode with
    | .ok topology =>
      if 0 ≤ first ∧ 0 < count then some (topology, .vertices first.toNat count.toNat) else none
    | .error _ => none
  | drawIndexed mode count indexType =>
    match Token.topology mode, Token.indexFormat indexType with
    | .ok topology, .ok format =>
      if 0 < count then some (topology, .indexed count.toNat format) else none
    | _, _ => none
  | _ => none

lemma drawn?_eq_some_iff (op : Op) (topology : Topology) (kind : DrawKind) :
    op.drawn? = some (topology, kind) ↔ op.Draws topology kind := by
  constructor
  · intro h
    cases op with
    | draw mode first count =>
      rw [drawn?] at h
      cases hmode : Token.topology mode with
      | error fault =>
        rw [hmode] at h
        cases h
      | ok topology' =>
        rw [hmode] at h
        obtain ⟨⟨hfirst, hcount⟩, heq⟩ := Option.ite_none_right_eq_some.mp h
        cases heq
        exact .vertices hmode hfirst hcount
    | drawIndexed mode count indexType =>
      rw [drawn?] at h
      cases hmode : Token.topology mode with
      | error fault =>
        rw [hmode] at h
        cases h
      | ok topology' =>
        cases hformat : Token.indexFormat indexType with
        | error fault =>
          rw [hmode, hformat] at h
          cases h
        | ok format =>
          rw [hmode, hformat] at h
          obtain ⟨hcount, heq⟩ := Option.ite_none_right_eq_some.mp h
          cases heq
          exact .indexed hmode hformat hcount
    | _ => cases h
  · intro h
    cases h with
    | vertices hmode hfirst hcount =>
      rw [drawn?, hmode]
      exact if_pos ⟨hfirst, hcount⟩
    | indexed hmode hformat hcount =>
      rw [drawn?, hmode, hformat]
      exact if_pos hcount

variable {δ P D : Type}

/-- The operation draws something, finds what the draw reads, and the state passes the checks: the
objects of the draw are looked up. -/
def looksUp (op : Op) (c : Context δ P D) : Bool :=
  match op.drawn? with
  | some (_, kind) => (c.drawInputs kind).isOk && c.tracker.snapshot.check.isOk
  | none => false

lemma looksUp_of_draws {op : Op} {topology : Topology} {kind : DrawKind}
    (h : op.Draws topology kind) (c : Context δ P D) :
    op.looksUp c = ((c.drawInputs kind).isOk && c.tracker.snapshot.check.isOk) := by
  rw [looksUp, (op.drawn?_eq_some_iff topology kind).mpr h]

lemma looksUp_of_not_draws {op : Op} (h : ∀ topology kind, ¬ op.Draws topology kind)
    (c : Context δ P D) : op.looksUp c = false := by
  rw [looksUp]
  cases hdrawn : op.drawn? with
  | none => rfl
  | some unit => exact absurd ((op.drawn?_eq_some_iff unit.1 unit.2).mp hdrawn) (h _ _)

/-- Only draw calls look anything up. -/
lemma not_draws_of_not_mem {op : Op} (h : .drawing ∉ op.calls) (topology : Topology)
    (kind : DrawKind) : ¬ op.Draws topology kind := by
  intro hdraws
  cases hdraws with
  | vertices => simp [calls] at h
  | indexed => simp [calls] at h

/-- Every operation keeps the counts balanced; one that looks its objects up is due two more
look-ups. -/
theorem apply_balanced (op : Op) {c : HostContext HostDevice} {due : ℕ}
    (h : c.cache.BalancedOn c.device due) :
    (op.apply c).2.cache.BalancedOn (op.apply c).2.device (due + 2 * (op.looksUp c).toNat) := by
  by_cases hdraw : .drawing ∈ op.calls
  · rcases op.draw_cases c hdraw with ⟨topology, kind, hdraws, hcall⟩ | ⟨hnone, hsame⟩
    · rw [hcall, replyWith_snd, looksUp_of_draws hdraws]
      rcases c.drawUnit_cases topology kind with ⟨fault, hinputs, hcall⟩ |
          ⟨inputs, fault, cache, t, hinputs, hresolve, hcall⟩ |
            ⟨inputs, config, cache, t, hinputs, hresolve, hcall⟩
      · rw [hcall, hinputs]
        exact h
      · rw [hcall, hinputs]
        cases hcheck : c.tracker.snapshot.check with
        | error fault' =>
          cases hresolve.symm.trans (DrawConfig.resolve_of_check hcheck _ _ _ _)
          exact h
        | ok _ => exact h.resolve hcheck hresolve
      · rw [hcall, hinputs, Context.submitUnit_snd]
        cases hcheck : c.tracker.snapshot.check with
        | error fault' => cases hresolve.symm.trans (DrawConfig.resolve_of_check hcheck _ _ _ _)
        | ok _ =>
          have hkeeps : Keeps (fun t : HostDevice => cache.BalancedOn t (due + 2)) [.drawing] :=
            Cache.BalancedOn.keeps cache _ (by simp)
          refine FrameSerial.submit_keeps (Cache.BalancedOn.keeps cache _ (by simp)) ?_ _
          exact hkeeps (.encodeDraw config ⟨kind, inputs.vertex, inputs.index⟩)
            (List.mem_singleton.mpr rfl) t (h.resolve hcheck hresolve)
    · rw [hsame, looksUp_of_not_draws hnone]
      exact h
  · have hcompile := compiling_not_mem hdraw
    rw [(op.changes_apply c).cache_eq hcompile,
      looksUp_of_not_draws (not_draws_of_not_mem hdraw)]
    exact op.apply_keeps (Cache.BalancedOn.keeps c.cache due hcompile) c h

end Op

namespace Step

variable {δ α P D : Type}

/-- The step looks the objects of a draw up. -/
def looksUp (step : Step α) (c : Context δ P D) : Bool :=
  match step with
  | perform op => op.looksUp c
  | adjust _ | setUi _ | setHost _ => false

variable [Device δ P D] [Adjustable δ α]

/-- How many draws of a run look their objects up. -/
def lookUps : List (Step α) → Context δ P D → ℕ
  | [], _ => 0
  | step :: steps, c => (step.looksUp c).toNat + lookUps steps (step.apply c)

theorem apply_balanced (step : Step Arming) {c : HostContext HostDevice} {due : ℕ}
    (h : c.cache.BalancedOn c.device due) :
    (step.apply c).cache.BalancedOn (step.apply c).device (due + 2 * (step.looksUp c).toNat) := by
  cases step with
  | perform op => exact op.apply_balanced h
  | adjust arming =>
    obtain ⟨p, q, e, hmemory⟩ :=
      c.device.device.arm_memory arming.point arming.count arming.fault
    have hpipelines : ((adjust arming : Step Arming).apply c).device.pipelineAttempts =
        c.device.pipelineAttempts := by
      have hmade := congrArg MemoryDevice.pipelineCompilations hmemory
      exact congrArg (fun n => (⟨n, _, _⟩ : Attempts PipelineKey)) hmade
    have hdepthStencils : ((adjust arming : Step Arming).apply c).device.depthStencilAttempts =
        c.device.depthStencilAttempts := by
      have hmade := congrArg MemoryDevice.depthStencilCompilations hmemory
      exact congrArg (fun n => (⟨n, _, _⟩ : Attempts DepthStencilKey)) hmade
    rw [Cache.BalancedOn, hpipelines, hdepthStencils]
    exact h
  | setUi _ | setHost _ => exact h

/-- Every run keeps the counts balanced. -/
theorem run_balanced (steps : List (Step Arming)) {c : HostContext FaultyDevice}
    {es : List HostExchange} {due : ℕ} (h : c.cache.BalancedOn ⟨c.device, es⟩ due) :
    (run steps c).cache.BalancedOn ⟨(run steps c).device, es ++ trace steps c⟩
      (due + 2 * lookUps steps c) := by
  induction steps generalizing c es due with
  | nil =>
    rw [trace_nil, List.append_nil]
    exact h
  | cons step steps ih =>
    have hstep : (step.apply c).cache.BalancedOn
        ⟨(step.apply c).device, es ++ step.exchanges c⟩ (due + 2 * (step.looksUp c).toNat) := by
      have happly := step.apply_balanced (c := c.traced es) h
      rw [apply_traced] at happly
      exact happly
    rw [run_cons, trace_cons, ← List.append_assoc, lookUps, Nat.mul_add, ← Nat.add_assoc]
    exact ih hstep

end Step

/-! ### The balance -/

/-- **The counts of the cache balance.** Take any run on a device in host memory, whatever fails.
Every miss is one attempt of the device to compile; it ends as a kept object or as a failure, and
the failures are the attempts that were refused. As many objects of a kind are kept as different
keys of the kind were compiled. A draw that looks its objects up makes two look-ups, but for those
whose pipeline is refused, which make one. However the run goes on, no count falls, and what is in
the cache stays there as it is. Attempts are natural numbers here; what the device counts of them in
32 bits is the same as long as it fits. -/
theorem statistics_balance (config : Config) (ui : UiThread) (d : FaultyDevice)
    (hfresh : d.Fresh) (steps : List (Step Arming)) :
    let c₀ : HostContext FaultyDevice := .ofDevice config ui d
    let c := Step.run steps c₀
    let stats := c.cache.stats
    let es := Step.trace steps c₀
    stats.misses = stats.pipelines + stats.depthStencils + stats.failures ∧
    stats.misses =
      c.device.memory.pipelineCompilations + c.device.memory.depthStencilCompilations ∧
    stats.failures = refusedPipelines es + refusedDepthStencils es ∧
    stats.pipelines = (compiledPipelines es).toFinset.card ∧
    stats.depthStencils = (compiledDepthStencils es).toFinset.card ∧
    stats.hits + stats.misses + refusedPipelines es = 2 * Step.lookUps steps c₀ ∧
    ∀ steps' : List (Step Arming),
      let c' := Step.run steps' c
      stats.AtMost c'.cache.stats ∧ c.cache.Extends c'.cache ∧
        c.device.memory.pipelineCompilations ≤ c'.device.memory.pipelineCompilations ∧
        c.device.memory.depthStencilCompilations ≤ c'.device.memory.depthStencilCompilations := by
  intro c₀ c stats es
  have hbalanced₀ : c₀.cache.BalancedOn ⟨c₀.device, []⟩ 0 :=
    Cache.BalancedOn.empty rfl hfresh.pipelines hfresh.depthStencils
  have hkept₀ : c₀.cache.Interned ⟨c₀.device, []⟩ := Cache.Interned.empty rfl
  have hbalanced := Step.run_balanced steps hbalanced₀
  rw [Nat.zero_add] at hbalanced
  obtain ⟨hpipelines, hdepthStencils, hmisses, hfailures, hdue⟩ := hbalanced
  have hinterned : c.cache.Interned ⟨c.device, es⟩ := by
    have hinterned := Step.run_interned steps (c := c₀.traced []) hkept₀
    rw [Step.run_traced] at hinterned
    exact hinterned
  refine ⟨?_, hmisses, hfailures, ?_, ?_, hdue, fun steps' => ?_⟩
  · have hpsize : stats.pipelines = _ := hpipelines.size_eq
    have hqsize : stats.depthStencils = _ := hdepthStencils.size_eq
    have hmissed : stats.misses = _ := hmisses
    have hfailed : stats.failures = _ := hfailures
    rw [hmissed, hpipelines.made_eq, hdepthStencils.made_eq, hpsize, hqsize, hfailed]
    omega
  · exact hpipelines.size_eq.trans (List.toFinset_card_of_nodup hinterned.pipelines.nodup).symm
  · exact hdepthStencils.size_eq.trans
      (List.toFinset_card_of_nodup hinterned.depthStencils.nodup).symm
  · obtain ⟨hstats, hextends⟩ := Step.run_grows steps' c
    exact ⟨hstats, hextends, Step.attempts_run steps' c⟩

/-- Draws with a hit, a miss, a refused pipeline that is asked for again, and a refused
depth-stencil object that is; and a draw that has no indices. -/
def armedDraws : List (Step Arming) := [.perform (.draw Token.triangles 0 3),
  .perform (.draw Token.triangles 3 3), .adjust ⟨.pipeline, 1, .resource .encodeFailureArmed⟩,
  .perform (.draw Token.lines 0 2), .perform (.draw Token.lines 0 2),
  .perform (.set (.depth { testEnabled := true })),
  .adjust ⟨.depthStencil, 1, .resource .encodeFailureArmed⟩, .perform (.draw Token.lines 0 2),
  .perform (.draw Token.lines 0 2), .perform (.drawIndexed Token.lines 2 0x1403)]

/-- Six draws look their objects up, one of them the pipeline alone; two attempts of six are
refused. -/
theorem statistics_balance_armedDraws :
    (FaultyDevice.ofAlignment 1).Fresh ∧
      let c₀ : HostContext FaultyDevice := .ofDevice {} .stopped (.ofAlignment 1)
      (Step.run armedDraws c₀).cache.stats = ⟨2, 2, 5, 6, 2⟩ ∧
      Step.lookUps armedDraws c₀ = 6 ∧ refusedPipelines (Step.trace armedDraws c₀) = 1 ∧
      (compiledPipelines (Step.trace armedDraws c₀)).toFinset.card = 2 ∧
      ∀ steps' : List (Step Arming), (Step.run armedDraws c₀).cache.stats.AtMost
        (Step.run steps' (Step.run armedDraws c₀)).cache.stats := by
  have hfresh := FaultyDevice.fresh_ofAlignment 1
  have hstats : (Step.run armedDraws (.ofDevice {} .stopped (.ofAlignment 1) :
      HostContext FaultyDevice)).cache.stats = ⟨2, 2, 5, 6, 2⟩ := by decide +kernel
  obtain ⟨-, -, -, hpipelines, -, -, hlater⟩ :=
    statistics_balance {} .stopped _ hfresh armedDraws
  refine ⟨hfresh, hstats, by decide +kernel, by decide +kernel, ?_,
    fun steps' => (hlater steps').1⟩
  rw [← hpipelines, hstats]

end RenderBridge
