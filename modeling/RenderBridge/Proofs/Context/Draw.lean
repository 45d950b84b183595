import RenderBridge.Proofs.Context.Frame
import RenderBridge.Proofs.Draw.Cache
/-!
What a draw does, step by step.

* `Op.Draws`: the operations that draw something, with what they draw.
* `Op.draw_cases`: an operation that draws is one draw unit; any other draw call changes nothing.
* `Context.InputsCourse`, `drawInputs_course`: looking up what a draw reads; `drawInputs_ok`: what
  it is.
* `Context.drawUnit_cases`: a draw unit has its inputs refused, or its state, or is encoded and
  submitted.
* `Op.cache_extends`: compiled objects stay in the cache.
-/

set_option autoImplicit false

namespace RenderBridge

variable {δ P D : Type} [Device δ P D]

/-! ### Inputs of draws -/

namespace Context

variable (c : Context δ P D)

/-- The range of the bound vertices, if any are. -/
def boundVertices (c : Context δ P D) : Option BufferBinding :=
  c.bindings.vertex.bind fun bound =>
    (c.buffers.records.get? bound.1).map (·.binding c.serial)

/-- The range of the bound indices, if any are. -/
def boundIndices (c : Context δ P D) : Option BufferBinding :=
  c.bindings.index.bind fun bound => (c.buffers.records.get? bound).map (·.binding c.serial)

/-- What the inputs of a draw are: the bound ranges, and the registered layout of the vertices. -/
structure HasInputs (c : Context δ P D) (kind : DrawKind) (inputs : DrawInputs) : Prop where
  vertex : inputs.vertex = c.boundVertices
  vertex_isSome : inputs.vertex.isSome = c.bindings.vertex.isSome
  index : inputs.index = c.boundIndices
  index_isSome : inputs.index.isSome = c.bindings.index.isSome
  handle : inputs.layout.map (·.1) = c.bindings.vertex.map (·.2)
  native : ∀ handle native, inputs.layout = some (handle, native) →
    ∃ record, c.layouts.records.get? handle = some record ∧ native = record.native
  indexed : ∀ count format, kind = .indexed count format → inputs.index.isSome

omit [Device δ P D] in
lemma bindingOf_ok {buffer : Option BufferHandle} {binding : Option BufferBinding}
    (h : c.bindingOf buffer = .ok binding) :
    binding = (buffer.bind fun bound =>
      (c.buffers.records.get? bound).map (·.binding c.serial)) ∧
      binding.isSome = buffer.isSome := by
  cases buffer with
  | none =>
    cases h
    exact ⟨rfl, rfl⟩
  | some handle =>
    rw [bindingOf, BufferAllocator.binding, BufferAllocator.find] at h
    cases hlive : c.buffers.records.get? handle with
    | none =>
      rw [hlive] at h
      cases h
    | some r =>
      rw [hlive] at h
      cases h
      rw [Option.bind_some, hlive]
      exact ⟨rfl, rfl⟩

omit [Device δ P D] in
lemma boundLayout_ok {layout : Option (LayoutHandle × VertexLayout)}
    (h : c.boundLayout = .ok layout) :
    layout.map (·.1) = c.bindings.vertex.map (·.2) ∧
      ∀ handle native, layout = some (handle, native) →
        ∃ record, c.layouts.records.get? handle = some record ∧ native = record.native := by
  rw [boundLayout] at h
  cases hbound : c.bindings.vertex with
  | none =>
    rw [hbound] at h
    cases h
    exact ⟨rfl, fun handle native hnone => by cases hnone⟩
  | some bound =>
    obtain ⟨buffer, handle⟩ := bound
    rw [hbound] at h
    dsimp only at h
    rw [LayoutRegistry.find] at h
    cases hrecord : c.layouts.records.get? handle with
    | none =>
      rw [hrecord] at h
      cases h
    | some record =>
      rw [hrecord] at h
      cases h
      refine ⟨rfl, fun handle' native hsome => ?_⟩
      cases hsome
      exact ⟨record, hrecord, rfl⟩

/-- The courses that looking up the inputs of a draw takes: an indexed draw has no indices, or a
buffer or the layout is not there, or all are. -/
inductive InputsCourse (c : Context δ P D) (kind : DrawKind) : Except Fault DrawInputs → Prop
  | unindexed {count : ℕ} {format : IndexFormat} (kind_eq : kind = .indexed count format)
      (index_eq : c.bindings.index = none) :
      InputsCourse c kind (.error (.invalidArgument .indexBufferUnbound))
  | noVertices {fault : Fault} (vertex : c.bindingOf (c.bindings.vertex.map (·.1)) = .error fault) :
      InputsCourse c kind (.error fault)
  | noIndices {fault : Fault} (index : c.bindingOf c.bindings.index = .error fault) :
      InputsCourse c kind (.error fault)
  | noLayout {fault : Fault} (layout : c.boundLayout = .error fault) :
      InputsCourse c kind (.error fault)
  | found {inputs : DrawInputs}
      (indexed : ∀ count format, kind = .indexed count format → c.bindings.index ≠ none)
      (vertex : c.bindingOf (c.bindings.vertex.map (·.1)) = .ok inputs.vertex)
      (index : c.bindingOf c.bindings.index = .ok inputs.index)
      (layout : c.boundLayout = .ok inputs.layout) : InputsCourse c kind (.ok inputs)

omit [Device δ P D] in
lemma drawInputs_course (kind : DrawKind) : c.InputsCourse kind (c.drawInputs kind) := by
  by_cases hunindexed : ∃ count format, kind = .indexed count format ∧ c.bindings.index = none
  · obtain ⟨count, format, rfl, hnone⟩ := hunindexed
    have herror : c.drawInputs (.indexed count format) =
        .error (.invalidArgument .indexBufferUnbound) := by
      rw [drawInputs]
      exact hnone
    rw [herror]
    exact .unindexed rfl hnone
  · have hindexed : ∀ count format, kind = .indexed count format → c.bindings.index ≠ none :=
      fun count format hkind hnone => hunindexed ⟨count, format, hkind, hnone⟩
    rw [drawInputs]
    case x_3 => exact hindexed
    cases hvertex : c.bindingOf (c.bindings.vertex.map (·.1)) with
    | error fault => exact .noVertices hvertex
    | ok vertex =>
      dsimp only
      cases hindex : c.bindingOf c.bindings.index with
      | error fault => exact .noIndices hindex
      | ok index =>
        dsimp only
        cases hlayout : c.boundLayout with
        | error fault => exact .noLayout hlayout
        | ok layout => exact .found hindexed hvertex hindex hlayout

omit [Device δ P D] in
/-- What the inputs of a draw are, where there are any. -/
lemma drawInputs_ok {kind : DrawKind} {inputs : DrawInputs}
    (h : c.drawInputs kind = .ok inputs) : c.HasInputs kind inputs := by
  have hcourse := c.drawInputs_course kind
  rw [h] at hcourse
  cases hcourse with
  | found hindexed hvertex hindex hlayout =>
    obtain ⟨hv, hvsome⟩ := c.bindingOf_ok hvertex
    obtain ⟨hi, hisome⟩ := c.bindingOf_ok hindex
    obtain ⟨hhandle, hnative⟩ := c.boundLayout_ok hlayout
    rw [Option.isSome_map] at hvsome
    refine ⟨?_, hvsome, hi, hisome, hhandle, hnative, fun count format hkind => ?_⟩
    · rw [boundVertices, hv]
      cases c.bindings.vertex <;> rfl
    · exact hisome.trans (Option.isSome_iff_ne_none.mpr (hindexed count format hkind))

end Context

/-! ### Draw units -/

namespace Context

variable (c : Context δ P D)

/-- The state of a draw with these inputs, resolved. -/
def resolveDraw (topology : Topology) (inputs : DrawInputs) :
    Except Fault (DrawConfig P D) × Cache P D × δ :=
  DrawConfig.resolve c.tracker.snapshot (c.drawTarget topology (inputs.layout.map (·.1)))
    (inputs.layout.map (·.2)) c.cache c.device

/-- What a draw needs is refused, or its state cannot be resolved, or it is encoded and
submitted. -/
lemma drawUnit_cases (topology : Topology) (kind : DrawKind) :
    (∃ fault, c.drawInputs kind = .error fault ∧ c.drawUnit topology kind = (.error fault, c)) ∨
      (∃ inputs fault cache d, c.drawInputs kind = .ok inputs ∧
        c.resolveDraw topology inputs = (.error fault, cache, d) ∧
        c.drawUnit topology kind = (.error fault, { c with cache, device := d })) ∨
      (∃ inputs config cache d, c.drawInputs kind = .ok inputs ∧
        c.resolveDraw topology inputs = (.ok config, cache, d) ∧
        c.drawUnit topology kind =
          { c with
            cache := cache
            device := (Device.encodeDraw config ⟨kind, inputs.vertex, inputs.index⟩ d).2
            }.submitUnit (Device.encodeDraw config ⟨kind, inputs.vertex, inputs.index⟩ d).1) := by
  rw [drawUnit]
  cases hinputs : c.drawInputs kind with
  | error fault => exact .inl ⟨fault, rfl, rfl⟩
  | ok inputs =>
    right
    rcases hresolve : c.resolveDraw topology inputs with ⟨answer, cache, d⟩
    have hsame := hresolve
    rw [resolveDraw] at hsame
    dsimp only
    rw [hsame]
    cases answer with
    | error fault => exact .inl ⟨inputs, fault, cache, d, rfl, hresolve, rfl⟩
    | ok config => exact .inr ⟨inputs, config, cache, d, rfl, hresolve, rfl⟩

end Context

/-! ### Draw calls -/

namespace Op

/-- The operations that draw something, with what they draw. -/
inductive Draws : Op → Topology → DrawKind → Prop
  | vertices {mode : UInt32} {first count : ℤ} {topology : Topology}
      (mode_eq : Token.topology mode = .ok topology) (first_nonneg : 0 ≤ first)
      (count_pos : 0 < count) :
      Draws (.draw mode first count) topology (.vertices first.toNat count.toNat)
  | indexed {mode : UInt32} {count : ℤ} {indexType : UInt32} {topology : Topology}
      {format : IndexFormat} (mode_eq : Token.topology mode = .ok topology)
      (format_eq : Token.indexFormat indexType = .ok format) (count_pos : 0 < count) :
      Draws (.drawIndexed mode count indexType) topology (.indexed count.toNat format)

/-- Only draws compile. -/
lemma compiling_not_mem {op : Op} (h : .drawing ∉ op.calls) : .compiling ∉ op.calls := by
  cases op with
  | draw => simp [calls] at h
  | drawIndexed => simp [calls] at h
  | _ => simp [calls]

lemma not_draws_vertices {mode : UInt32} {first count : ℤ}
    (h : ∀ topology, Token.topology mode = .ok topology → first < 0 ∨ count ≤ 0)
    (topology : Topology) (kind : DrawKind) : ¬ (Op.draw mode first count).Draws topology kind := by
  intro hdraws
  cases hdraws with
  | vertices hmode hfirst hcount =>
    have hrefused := h topology hmode
    omega

lemma not_draws_indexed {mode indexType : UInt32} {count : ℤ}
    (h : ∀ topology format, Token.topology mode = .ok topology →
      Token.indexFormat indexType = .ok format → count ≤ 0)
    (topology : Topology) (kind : DrawKind) :
    ¬ (Op.drawIndexed mode count indexType).Draws topology kind := by
  intro hdraws
  cases hdraws with
  | indexed hmode hindex hcount =>
    have hrefused := h topology _ hmode hindex
    omega

/-- A draw call draws something as one unit, or changes nothing. -/
lemma draw_cases (op : Op) (c : Context δ P D) (h : .drawing ∈ op.calls) :
    (∃ topology kind, op.Draws topology kind ∧
        op.apply c = replyWith (fun _ => .done) (c.drawUnit topology kind)) ∨
      ((∀ topology kind, ¬ op.Draws topology kind) ∧ (op.apply c).2 = c) := by
  cases op with
  | draw mode first count =>
    rw [apply, Context.draw]
    cases htopology : Token.topology mode with
    | error fault =>
      exact .inr ⟨not_draws_vertices fun _ hok => (by cases htopology.symm.trans hok), rfl⟩
    | ok topology =>
      dsimp only
      by_cases hnegative : first < 0 ∨ count < 0
      · rw [if_pos hnegative]
        exact .inr ⟨not_draws_vertices fun _ _ => hnegative.imp_right le_of_lt, rfl⟩
      · rw [if_neg hnegative]
        by_cases hzero : count = 0
        · rw [if_pos hzero]
          exact .inr ⟨not_draws_vertices fun _ _ => .inr hzero.le, rfl⟩
        · rw [if_neg hzero]
          exact .inl ⟨topology, _, .vertices htopology (by omega) (by omega), rfl⟩
  | drawIndexed mode count indexType =>
    rw [apply, Context.drawIndexed]
    cases htopology : Token.topology mode with
    | error fault =>
      exact .inr ⟨not_draws_indexed fun _ _ hok => (by cases htopology.symm.trans hok), rfl⟩
    | ok topology =>
      dsimp only
      cases hformat : Token.indexFormat indexType with
      | error fault =>
        exact .inr ⟨not_draws_indexed fun _ _ _ hok => (by cases hformat.symm.trans hok), rfl⟩
      | ok format =>
        dsimp only
        by_cases hnegative : count < 0
        · rw [if_pos hnegative]
          exact .inr ⟨not_draws_indexed fun _ _ _ _ => hnegative.le, rfl⟩
        · rw [if_neg hnegative]
          by_cases hzero : count = 0
          · rw [if_pos hzero]
            exact .inr ⟨not_draws_indexed fun _ _ _ _ => hzero.le, rfl⟩
          · rw [if_neg hzero]
            exact .inl ⟨topology, _, .indexed htopology hformat (by omega), rfl⟩
  | _ => simp [calls] at h

/-- Compiled objects stay in the cache. -/
theorem cache_extends (op : Op) (c : Context δ P D) : c.cache.Extends (op.apply c).2.cache := by
  by_cases hdraw : .drawing ∈ op.calls
  · rcases op.draw_cases c hdraw with ⟨topology, kind, -, hcall⟩ | ⟨-, hsame⟩
    · rw [hcall, replyWith_snd]
      rcases c.drawUnit_cases topology kind with ⟨fault, -, hcall⟩ |
          ⟨inputs, fault, cache, d, -, hresolve, hcall⟩ |
            ⟨inputs, config, cache, d, -, hresolve, hcall⟩
      · rw [hcall]
        exact .refl c.cache
      · rw [hcall]
        exact DrawConfig.resolve_extends hresolve
      · rw [hcall, Context.submitUnit_snd]
        exact DrawConfig.resolve_extends hresolve
    · rw [hsame]
      exact .refl c.cache
  · rw [(op.changes_apply c).cache_eq (compiling_not_mem hdraw)]
    exact .refl c.cache

end Op

end RenderBridge
