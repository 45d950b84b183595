import RenderBridge.Proofs.Context.Failure
import RenderBridge.Proofs.Draw.Faithful
/-!
What draws make of compiled objects on a device in host memory where no failure is armed.

* `ObjectLedger`, `ObjectLedger.use`: the objects of one kind that are kept, compiled and recorded,
  and what becomes of them where the object of a key is needed.
* `Context.pipelineLedger`, `depthStencilLedger`: the two ledgers of a context.
* `MemoryDevice.Idle`, `Op.apply_idle`: operations that draw nothing leave both.
* `Context.drawUnit_outcome`: **a draw uses one key in each ledger**, or it is refused and nothing
  changes.
* `Context.Sound`, `Op.drawn_iff`: with good state and bindings, a draw of something is refused only
  where it finds no indices; every operation keeps them good.
-/

set_option autoImplicit false

namespace RenderBridge

/-! ### Ledgers -/

/-- The compiled objects of one kind: those that are kept, the number of attempts to compile, and
those in the recorded draws, in their order. -/
structure ObjectLedger (κ ν : Type) where
  kept : Table κ ν
  attempts : ℕ
  recorded : List ν

/-- The ledger after a draw that needs the object of a key. It is the one that is kept, or it is
made with the next count and kept. -/
def ObjectLedger.use {κ ν : Type} [DecidableEq κ] (make : UInt32 → κ → ν) (k : κ)
    (l : ObjectLedger κ ν) : ObjectLedger κ ν :=
  match l.kept.get? k with
  | some v => { l with recorded := l.recorded ++ [v] }
  | none =>
    let v := make (.ofNat l.attempts + 1) k
    ⟨l.kept.insert k v, l.attempts + 1, l.recorded ++ [v]⟩

namespace MemoryDevice

/-- No call is to fail. -/
structure Unarmed (d : MemoryDevice) : Prop where
  pipelines : d.failPipelines = 0
  depthStencils : d.failDepthStencils = 0
  encodes : d.failEncodes = 0

/-- The pipelines of the recorded draws. -/
def recordedPipelines (d : MemoryDevice) : List CompiledPipeline :=
  d.recorded.flatMap (·.pipelines)

/-- The depth-stencil objects of the recorded draws. -/
def recordedDepthStencils (d : MemoryDevice) : List CompiledDepthStencil :=
  d.recorded.flatMap (·.depthStencils)

lemma recorded_record (d : MemoryDevice) (work : RecordedWork) :
    (d.record work).recorded = d.recorded ++ [work] := (List.append_assoc _ _ _).symm

@[simp]
lemma recorded_submit (d : MemoryDevice) : d.submit.recorded = d.recorded := by
  rw [recorded, recorded, submit, List.append_nil, List.flatten_append, List.flatten_singleton]

end MemoryDevice

namespace Context

/-- The pipelines of a context. -/
def pipelineLedger (c : HostContext MemoryDevice) : ObjectLedger PipelineKey CompiledPipeline :=
  ⟨c.cache.pipelines, c.device.pipelineCompilations, c.device.recordedPipelines⟩

/-- The depth-stencil objects of a context. -/
def depthStencilLedger (c : HostContext MemoryDevice) :
    ObjectLedger DepthStencilKey CompiledDepthStencil :=
  ⟨c.cache.depthStencils, c.device.depthStencilCompilations, c.device.recordedDepthStencils⟩

end Context

/-! ### Calls that neither compile nor draw -/

namespace MemoryDevice

/-- A device after calls that neither compile nor draw. -/
structure Idle (d d' : MemoryDevice) : Prop where
  alignment : d'.alignment = d.alignment
  pipelineCompilations : d'.pipelineCompilations = d.pipelineCompilations
  depthStencilCompilations : d'.depthStencilCompilations = d.depthStencilCompilations
  recordedPipelines : d'.recordedPipelines = d.recordedPipelines
  recordedDepthStencils : d'.recordedDepthStencils = d.recordedDepthStencils
  unarmed : d.Unarmed → d'.Unarmed

variable {d d' d'' : MemoryDevice}

namespace Idle

lemma refl (d : MemoryDevice) : Idle d d := ⟨rfl, rfl, rfl, rfl, rfl, id⟩

lemma trans (h : Idle d d') (h' : Idle d' d'') : Idle d d'' where
  alignment := h'.alignment.trans h.alignment
  pipelineCompilations := h'.pipelineCompilations.trans h.pipelineCompilations
  depthStencilCompilations := h'.depthStencilCompilations.trans h.depthStencilCompilations
  recordedPipelines := h'.recordedPipelines.trans h.recordedPipelines
  recordedDepthStencils := h'.recordedDepthStencils.trans h.recordedDepthStencils
  unarmed := h'.unarmed ∘ h.unarmed

end Idle

/-- Such a call leaves what was compiled, and the objects that were recorded. -/
lemma idle_perform (request : HostRequest) (hcompile : request.kind ≠ .compiling)
    (hdraw : request.kind ≠ .drawing) (d : MemoryDevice) : Idle d (request.perform d).2 := by
  have hchanges := changes_perform request d
  cases request with
  | compilePipeline => exact absurd rfl hcompile
  | compileDepthStencil => exact absurd rfl hcompile
  | encodeDraw => exact absurd rfl hdraw
  | clear color =>
    have hwork : (d.record (.clear color)).recorded = d.recorded ++ [.clear color] :=
      d.recorded_record _
    have hpipelines : (d.record (.clear color)).recordedPipelines = d.recordedPipelines := by
      rw [recordedPipelines, hwork, List.flatMap_append, List.flatMap_singleton]
      exact List.append_nil _
    have hdepthStencils :
        (d.record (.clear color)).recordedDepthStencils = d.recordedDepthStencils := by
      rw [recordedDepthStencils, hwork, List.flatMap_append, List.flatMap_singleton]
      exact List.append_nil _
    exact ⟨rfl, rfl, rfl, hpipelines, hdepthStencils, fun h => ⟨h.1, h.2, h.3⟩⟩
  | submit =>
    have hpipelines : d.submit.recordedPipelines = d.recordedPipelines := by
      rw [recordedPipelines, recorded_submit, recordedPipelines]
    have hdepthStencils : d.submit.recordedDepthStencils = d.recordedDepthStencils := by
      rw [recordedDepthStencils, recorded_submit, recordedDepthStencils]
    exact ⟨rfl, rfl, rfl, hpipelines, hdepthStencils, fun h => ⟨h.1, h.2, h.3⟩⟩
  | _ =>
    generalize (Request.perform _ d).2 = d' at hchanges ⊢
    cases hchanges
    exact ⟨rfl, rfl, rfl, rfl, rfl, fun h => ⟨h.1, h.2, h.3⟩⟩

/-- Calls of such kinds go on from a device. -/
lemma keeps_idle (d : MemoryDevice) {kinds : List CallKind} (hcompile : .compiling ∉ kinds)
    (hdraw : .drawing ∉ kinds) : Keeps d.Idle kinds := by
  intro request hkind d' hd'
  exact hd'.trans (d'.idle_perform request (fun heq => hcompile (heq ▸ hkind))
    (fun heq => hdraw (heq ▸ hkind)))

end MemoryDevice

/-- An operation that draws nothing neither compiles nor records a draw. -/
lemma Op.apply_idle {op : Op} (h : .drawing ∉ op.calls) (c : HostContext MemoryDevice) :
    c.device.Idle (op.apply c).2.device ∧
      (op.apply c).2.pipelineLedger = c.pipelineLedger ∧
      (op.apply c).2.depthStencilLedger = c.depthStencilLedger := by
  have hcompile := compiling_not_mem h
  have hidle : c.device.Idle (op.apply c).2.device :=
    op.apply_keeps (c.device.keeps_idle hcompile h) c (.refl c.device)
  have hcache := (op.changes_apply c).cache_eq hcompile
  refine ⟨hidle, ?_, ?_⟩
  · rw [Context.pipelineLedger, hcache, hidle.pipelineCompilations, hidle.recordedPipelines]
    rfl
  · rw [Context.depthStencilLedger, hcache, hidle.depthStencilCompilations,
      hidle.recordedDepthStencils]
    rfl

/-! ### Objects of a draw -/

namespace Cache

variable (cache : Cache CompiledPipeline CompiledDepthStencil) {d : MemoryDevice}

/-- A pipeline is found, or compiled with the next number and kept. -/
lemma pipeline_unarmed (key : PipelineKey) (layout : Option VertexLayout) (h : d.Unarmed) :
    ∃ p cache' n, cache.pipeline key layout d =
        (.ok p, cache', { d with pipelineCompilations := n }) ∧
      cache'.depthStencils = cache.depthStencils ∧
      ∀ used, (⟨cache.pipelines, d.pipelineCompilations, used⟩ : ObjectLedger _ _).use .mk key =
        ⟨cache'.pipelines, n, used ++ [p]⟩ := by
  have hcompile : Device.compilePipeline key layout d =
      ((.ok ⟨d.pipelineCount + 1, key⟩ : Except DeviceFault CompiledPipeline),
        { d with pipelineCompilations := d.pipelineCompilations + 1 }) := by
    change MemoryDevice.compilePipeline key d = _
    rw [MemoryDevice.compilePipeline, if_pos h.pipelines]
  rw [pipeline]
  cases hget : cache.pipelines.get? key with
  | some p =>
    refine ⟨p, _, d.pipelineCompilations, rfl, rfl, fun used => ?_⟩
    rw [ObjectLedger.use, hget]
  | none =>
    dsimp only
    rw [hcompile]
    refine ⟨_, _, _, rfl, rfl, fun used => ?_⟩
    rw [ObjectLedger.use, hget]
    rfl

/-- A depth-stencil object is found, or compiled with the next number and kept. -/
lemma depthStencil_unarmed (key : DepthStencilKey) (h : d.Unarmed) :
    ∃ q cache' n, cache.depthStencil key d =
        (.ok q, cache', { d with depthStencilCompilations := n }) ∧
      cache'.pipelines = cache.pipelines ∧
      ∀ used, (⟨cache.depthStencils, d.depthStencilCompilations, used⟩ :
        ObjectLedger _ _).use .mk key = ⟨cache'.depthStencils, n, used ++ [q]⟩ := by
  have hcompile : Device.compileDepthStencil key d =
      ((.ok ⟨d.depthStencilCount + 1, key⟩ : Except DeviceFault CompiledDepthStencil),
        { d with depthStencilCompilations := d.depthStencilCompilations + 1 }) := by
    change MemoryDevice.compileDepthStencil key d = _
    rw [MemoryDevice.compileDepthStencil, if_pos h.depthStencils]
  rw [depthStencil]
  cases hget : cache.depthStencils.get? key with
  | some q =>
    refine ⟨q, _, d.depthStencilCompilations, rfl, rfl, fun used => ?_⟩
    rw [ObjectLedger.use, hget]
  | none =>
    dsimp only
    rw [hcompile]
    refine ⟨_, _, _, rfl, rfl, fun used => ?_⟩
    rw [ObjectLedger.use, hget]
    rfl

end Cache

/-- A state that passes the checks is resolved, and one key of each kind is used. -/
lemma DrawConfig.resolve_unarmed {s : Snapshot} (hcheck : s.check = .ok ()) (target : DrawTarget)
    (layout : Option VertexLayout) (cache : Cache CompiledPipeline CompiledDepthStencil)
    {d : MemoryDevice} (h : d.Unarmed) :
    ∃ p q cache' n m, DrawConfig.resolve s target layout cache d = (.ok (.of s target p q), cache',
        { d with pipelineCompilations := n, depthStencilCompilations := m }) ∧
      (∀ used, (⟨cache.pipelines, d.pipelineCompilations, used⟩ : ObjectLedger _ _).use .mk
        (.of s target) = ⟨cache'.pipelines, n, used ++ [p]⟩) ∧
      ∀ used, (⟨cache.depthStencils, d.depthStencilCompilations, used⟩ : ObjectLedger _ _).use .mk
        (.of s) = ⟨cache'.depthStencils, m, used ++ [q]⟩ := by
  obtain ⟨p, cache₁, n, hp, hdepths, hpipelines⟩ := cache.pipeline_unarmed (.of s target) layout h
  obtain ⟨q, cache₂, m, hq, hpipes, hdepthStencils⟩ := cache₁.depthStencil_unarmed
    (d := { d with pipelineCompilations := n }) (.of s) ⟨h.pipelines, h.depthStencils, h.encodes⟩
  refine ⟨p, q, cache₂, n, m, ?_, fun used => ?_, fun used => ?_⟩
  · rw [resolve, hcheck]
    dsimp only
    rw [hp]
    dsimp only
    rw [hq]
  · rw [hpipelines, hpipes]
  · rw [← hdepths, hdepthStencils]

/-! ### Draws -/

namespace Context

/-- What a draw that is done makes of a context: one key is used in each ledger. -/
structure Drew (c c' : HostContext MemoryDevice) (topology : Topology) : Prop where
  pipelines : c'.pipelineLedger = c.pipelineLedger.use .mk
    (.of c.tracker.snapshot (c.drawTarget topology (c.bindings.vertex.map (·.2))))
  depthStencils : c'.depthStencilLedger =
    c.depthStencilLedger.use .mk (.of c.tracker.snapshot)
  alignment : c'.device.alignment = c.device.alignment
  unarmed : c'.device.Unarmed
  others : ∃ cache serial device, c' = { c with cache, serial, device }

/-- A draw of which the look-ups and the state are good is done and uses one key in each ledger. Any
other is refused, and nothing changes. -/
theorem drawUnit_outcome (c : HostContext MemoryDevice) (h : c.device.Unarmed)
    (topology : Topology) (kind : DrawKind) :
    (((∃ fault, c.drawInputs kind = .error fault) ∨
        ∃ fault, c.tracker.snapshot.check = .error fault) ∧
      ∃ fault, c.drawUnit topology kind = (.error fault, c)) ∨
    ((∃ inputs, c.drawInputs kind = .ok inputs) ∧ c.tracker.snapshot.check = .ok () ∧
      ∃ c', c.drawUnit topology kind = (.ok (), c') ∧ c.Drew c' topology) := by
  rw [drawUnit]
  cases hinputs : c.drawInputs kind with
  | error fault => exact .inl ⟨.inl ⟨fault, rfl⟩, fault, rfl⟩
  | ok inputs =>
    have hin := c.drawInputs_ok hinputs
    dsimp only
    cases hcheck : c.tracker.snapshot.check with
    | error fault =>
      rw [DrawConfig.resolve_of_check hcheck]
      exact .inl ⟨.inr ⟨fault, rfl⟩, fault, rfl⟩
    | ok _ =>
      obtain ⟨p, q, cache, n, m, hresolve, hpipelines, hdepthStencils⟩ :=
        DrawConfig.resolve_unarmed hcheck (c.drawTarget topology (inputs.layout.map (·.1)))
          (inputs.layout.map (·.2)) c.cache h
      set config := DrawConfig.of c.tracker.snapshot
        (c.drawTarget topology (inputs.layout.map (·.1))) p q
      set d : MemoryDevice :=
        { c.device with pipelineCompilations := n, depthStencilCompilations := m }
      set work : RecordedWork := .draw config.commands kind (inputs.vertex.map MemoryDevice.place)
        (inputs.index.map MemoryDevice.place)
      have hencode : Device.encodeDraw config ⟨kind, inputs.vertex, inputs.index⟩ d =
          ((.ok () : Except DeviceFault Unit), d.record work) := by
        change MemoryDevice.encodeDraw config _ d = _
        rw [MemoryDevice.encodeDraw_eq config _ d hin.indexed, if_pos h.encodes]
      obtain ⟨hp, hq⟩ := config.objects_commands kind (inputs.vertex.map MemoryDevice.place)
        (inputs.index.map MemoryDevice.place)
      refine .inr ⟨⟨inputs, rfl⟩, rfl, { c with
        cache := cache, serial := c.serial.next, device := (d.record work).submit }, ?_, ?_⟩
      · rw [hresolve]
        dsimp only
        rw [hencode]
        rfl
      · have hrecorded : ((d.record work).submit).recorded = c.device.recorded ++ [work] := by
          rw [MemoryDevice.recorded_submit, MemoryDevice.recorded_record]
          rfl
        refine ⟨?_, ?_, rfl, ⟨h.pipelines, h.depthStencils, h.encodes⟩, _, _, _, rfl⟩
        · rw [pipelineLedger, pipelineLedger, MemoryDevice.recordedPipelines, hrecorded,
            List.flatMap_append, List.flatMap_singleton, hp, ← hin.handle, hpipelines]
          rfl
        · rw [depthStencilLedger, depthStencilLedger, MemoryDevice.recordedDepthStencils, hrecorded,
            List.flatMap_append, List.flatMap_singleton, hq, hdepthStencils]
          rfl

end Context

/-! ### Sound contexts -/

/-- The draw finds the indices that it needs. -/
def DrawKind.Finds (kind : DrawKind) (bindings : DrawBindings) : Prop :=
  ∀ count format, kind = .indexed count format → bindings.index ≠ none

/-- No failure is armed, the state can be drawn with, and the bindings are good. -/
structure Context.Sound (c : HostContext MemoryDevice) : Prop where
  unarmed : c.device.Unarmed
  drawable : c.tracker.snapshot.Drawable
  bound : c.Bound

/-- What an operation draws is determined. -/
lemma Op.Draws.unique {op : Op} {topology topology' : Topology} {kind kind' : DrawKind}
    (h : op.Draws topology kind) (h' : op.Draws topology' kind') :
    topology' = topology ∧ kind' = kind := by
  cases h with
  | vertices hmode =>
    cases h' with
    | vertices hmode' => exact ⟨Except.ok.inj (hmode'.symm.trans hmode), rfl⟩
  | indexed hmode hformat =>
    cases h' with
    | indexed hmode' hformat' =>
      obtain rfl := Except.ok.inj (hformat'.symm.trans hformat)
      exact ⟨Except.ok.inj (hmode'.symm.trans hmode), rfl⟩

namespace Context

variable {c : HostContext MemoryDevice}

/-- A draw in a sound context is done where it finds its indices, and else changes nothing. -/
lemma Sound.drawUnit (h : c.Sound) (topology : Topology) (kind : DrawKind) :
    (kind.Finds c.bindings ∧
        ∃ c', c.drawUnit topology kind = (.ok (), c') ∧ c.Drew c' topology) ∨
      (¬ kind.Finds c.bindings ∧
        ∃ fault, c.drawUnit topology kind = (.error fault, c)) := by
  rcases c.drawUnit_outcome h.unarmed topology kind with
    ⟨hbad, hrefused⟩ | ⟨⟨inputs, hinputs⟩, -, hdone⟩
  · refine .inr ⟨fun hfinds => ?_, hrefused⟩
    obtain ⟨inputs, hinputs⟩ := h.bound.exists_drawInputs hfinds
    rcases hbad with ⟨fault, hfault⟩ | ⟨fault, hfault⟩
    · cases hinputs.symm.trans hfault
    · cases h.drawable.check_eq.symm.trans hfault
  · refine .inl ⟨fun count format hkind hunbound => ?_, hdone⟩
    rw [hkind, c.drawInputs_unbound hunbound] at hinputs
    cases hinputs

end Context

namespace Op

variable {c : HostContext MemoryDevice}

/-- The operation is a draw, and not one of nothing. -/
def drawsSome : Op → Bool
  | draw _ _ count | drawIndexed _ count _ => count ≠ 0
  | _ => false

/-- The operation is a draw of something, and it is done. -/
def drawn (op : Op) (c : HostContext MemoryDevice) : Bool := op.drawsSome && (op.apply c).1.isOk

/-- An operation that is done and no draw of nothing draws something. -/
lemma exists_draws (op : Op) (c : HostContext MemoryDevice) (h : op.drawn c = true) :
    ∃ topology kind, op.Draws topology kind := by
  rw [drawn, Bool.and_eq_true] at h
  obtain ⟨hsome, hdone⟩ := h
  cases op with
  | draw mode first count =>
    obtain ⟨hrefused, -, hdraws⟩ := draw_answers c mode first count
    by_cases hgood : mode ∈ Token.topologies.map (·.1) ∧ 0 ≤ first ∧ 0 ≤ count
    · obtain ⟨topology, hdraws⟩ := hdraws hgood (by simpa [drawsSome] using hsome)
      exact ⟨topology, _, hdraws⟩
    · obtain ⟨cause, hcall⟩ := hrefused hgood
      rw [hcall] at hdone
      cases hdone
  | drawIndexed mode count indexType =>
    obtain ⟨hrefused, -, hdraws⟩ := drawIndexed_answers c mode count indexType
    by_cases hgood : mode ∈ Token.topologies.map (·.1) ∧
        indexType.toNat ∈ Token.indexFormats.map (·.1) ∧ 0 ≤ count
    · obtain ⟨topology, format, -, hdraws⟩ := hdraws hgood (by simpa [drawsSome] using hsome)
      exact ⟨topology, _, hdraws⟩
    · obtain ⟨cause, hcall⟩ := hrefused hgood
      rw [hcall] at hdone
      cases hdone
  | _ => cases hsome

lemma Draws.drawsSome {op : Op} {topology : Topology} {kind : DrawKind}
    (h : op.Draws topology kind) : op.drawsSome = true := by
  cases h with
  | vertices _ _ hcount => simpa [Op.drawsSome] using hcount.ne'
  | indexed _ _ hcount => simpa [Op.drawsSome] using hcount.ne'

/-- A draw that is done uses one key of each kind. -/
theorem drew_of_drawn (op : Op) (h : c.Sound) (hdrawn : op.drawn c = true) :
    ∃ topology kind, op.Draws topology kind ∧ kind.Finds c.bindings ∧
      c.Drew (op.apply c).2 topology := by
  obtain ⟨topology, kind, hdraws⟩ := op.exists_draws c hdrawn
  rw [drawn, hdraws.drawsSome, Bool.true_and, hdraws.apply_eq] at hdrawn
  rcases h.drawUnit topology kind with ⟨hfinds, c', hcall, hdrew⟩ | ⟨-, fault, hcall⟩
  · rw [hdraws.apply_eq, hcall]
    exact ⟨topology, kind, hdraws, hfinds, hdrew⟩
  · rw [hcall] at hdrawn
    cases hdrawn

/-- Any other draw call changes nothing. -/
theorem apply_of_not_drawn (op : Op) (h : c.Sound) (hdraw : .drawing ∈ op.calls)
    (hdrawn : op.drawn c = false) : (op.apply c).2 = c := by
  rcases op.draw_cases c hdraw with ⟨topology, kind, hdraws, hcall⟩ | ⟨-, hsame⟩
  · rw [drawn, hdraws.drawsSome, Bool.true_and, hcall] at hdrawn
    rw [hcall]
    rcases h.drawUnit topology kind with ⟨-, c', hdone, -⟩ | ⟨-, fault, hrefused⟩
    · rw [hdone] at hdrawn
      cases hdrawn
    · rw [hrefused]
      rfl
  · exact hsame

/-- A draw is done where it draws something and finds the indices that it needs. -/
theorem drawn_iff (op : Op) (h : c.Sound) :
    op.drawn c = true ↔ ∃ topology kind, op.Draws topology kind ∧ kind.Finds c.bindings := by
  constructor
  · intro hdrawn
    obtain ⟨topology, kind, hdraws, hfinds, -⟩ := op.drew_of_drawn h hdrawn
    exact ⟨topology, kind, hdraws, hfinds⟩
  · rintro ⟨topology, kind, hdraws, hfinds⟩
    rw [drawn, hdraws.drawsSome, Bool.true_and, hdraws.apply_eq]
    rcases h.drawUnit topology kind with ⟨-, c', hcall, -⟩ | ⟨hnone, -⟩
    · rw [hcall]
      rfl
    · exact absurd hfinds hnone

/-- Every operation keeps a context sound. -/
theorem apply_sound (op : Op) (h : c.Sound) : (op.apply c).2.Sound := by
  refine ⟨?_, op.apply_drawable h.drawable, op.apply_bound h.bound⟩
  by_cases hdraw : .drawing ∈ op.calls
  · cases hdrawn : op.drawn c with
    | true =>
      obtain ⟨topology, kind, -, -, hdrew⟩ := op.drew_of_drawn h hdrawn
      exact hdrew.unarmed
    | false =>
      rw [op.apply_of_not_drawn h hdraw hdrawn]
      exact h.unarmed
  · exact (op.apply_idle hdraw c).1.unarmed h.unarmed

end Op

/-- A context is sound at the start. -/
lemma Context.Sound.ofDevice (config : Config) (ui : UiThread) {d : MemoryDevice}
    (h : d.Unarmed) : (Context.ofDevice config ui d : HostContext MemoryDevice).Sound :=
  ⟨h, Snapshot.drawable_initial, .ofDevice config ui d⟩

end RenderBridge
