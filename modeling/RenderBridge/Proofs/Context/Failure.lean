import RenderBridge.Proofs.Buffer.Course
import RenderBridge.Proofs.Context.Unit
import RenderBridge.Proofs.Device.Faulty
import RenderBridge.Proofs.State.Drawable
/-!
When draws fail.

* `Context.Bound`: every bound buffer is live and every bound layout registered.
* `Op.apply_bound`: **every operation keeps the bindings good**. Destroying a buffer ends its
  bindings; nothing else takes a buffer or a layout away.
* `Context.Bound.exists_drawInputs`: so the look-ups of a draw do not fail.
* `Op.GoesAhead`, `draws_fail_exactly`: a draw that passes the checks of its arguments fails exactly
  where the device fails, and where that is in compiling, only the compile counters tell.
-/

set_option autoImplicit false

namespace RenderBridge

variable {δ P D : Type}

/-! ### Tables that grow -/

/-- Every key of a table is one of the other. -/
def Table.Grows {κ ν : Type} [DecidableEq κ] (t t' : Table κ ν) : Prop :=
  ∀ k, t.contains k = true → t'.contains k = true

namespace Table.Grows

variable {κ ν : Type} [DecidableEq κ]

lemma refl (t : Table κ ν) : t.Grows t := fun _ h => h

lemma insert (t : Table κ ν) (k : κ) (v : ν) : t.Grows (t.insert k v) := by
  intro j hj
  rw [contains, get?_insert]
  split
  · rfl
  · exact hj

end Table.Grows

section

variable [Device δ P D]

namespace BufferAllocator

variable (a : BufferAllocator)

/-- Creating a buffer ends none. -/
lemma create_grows (usage : BufferUsage) (size : ℤ) (data : Option Bytes) (d : δ)
    (host : HostMemory) :
    a.records.Grows (a.create usage size data d host).2.1.records := by
  have hcourse := a.create_course usage size data d host
  generalize a.create usage size data d host = out at hcourse ⊢
  cases hcourse with
  | created => exact .insert _ _ _
  | _ => exact .refl _

/-- Updating a buffer ends none, also where it fails. -/
lemma update_grows (handle : BufferHandle) (offset : ℤ) (data : Option Bytes) (length : ℤ)
    (serial : FrameSerial) (d : δ) :
    a.records.Grows (a.update handle offset data length serial d).2.1.records := by
  have hcourse := a.update_course handle offset data length serial d
  generalize a.update handle offset data length serial d = out at hcourse ⊢
  cases hcourse with
  | refused | empty => exact .refl _
  | _ => exact .insert _ _ _

end BufferAllocator

/-- Registering a layout ends none. -/
lemma LayoutRegistry.register_grows (r : LayoutRegistry) (stride count : ℤ) (packed : Bytes)
    (d : δ) : r.records.Grows (r.register stride count packed d).2.1.records := by
  rw [register]
  split
  · exact .refl _
  · split
    · exact .refl _
    · dsimp only
      rw [issue]
      split
      · exact .insert _ _ _
      · exact .refl _

end

/-! ### Bindings -/

/-- Every bound buffer is live, and every bound layout is registered. -/
structure Context.Bound (c : Context δ P D) : Prop where
  vertex : ∀ buffer layout, c.bindings.vertex = some (buffer, layout) →
    c.buffers.records.contains buffer = true ∧ c.layouts.records.contains layout = true
  index : ∀ buffer, c.bindings.index = some buffer → c.buffers.records.contains buffer = true

namespace Context.Bound

variable {c c' : Context δ P D}

/-- Nothing is bound at the start. -/
lemma ofDevice (config : Config) (ui : UiThread) (d : δ) :
    (Context.ofDevice config ui d : Context δ P D).Bound :=
  ⟨nofun, nofun⟩

/-- Bindings stay good where buffers and layouts only come. -/
lemma grows (h : c.Bound) (hbindings : c'.bindings = c.bindings)
    (hbuffers : c.buffers.records.Grows c'.buffers.records)
    (hlayouts : c.layouts.records.Grows c'.layouts.records) : c'.Bound := by
  refine ⟨fun buffer layout hbound => ?_, fun buffer hbound => ?_⟩
  · rw [hbindings] at hbound
    obtain ⟨hbuffer, hlayout⟩ := h.vertex buffer layout hbound
    exact ⟨hbuffers buffer hbuffer, hlayouts layout hlayout⟩
  · rw [hbindings] at hbound
    exact hbuffers buffer (h.index buffer hbound)

lemma congr (h : c.Bound) (hbindings : c'.bindings = c.bindings)
    (hbuffers : c'.buffers = c.buffers) (hlayouts : c'.layouts = c.layouts) : c'.Bound :=
  h.grows hbindings (by rw [hbuffers]; exact .refl _) (by rw [hlayouts]; exact .refl _)

variable [Device δ P D]

/-- Destroying a buffer ends its bindings. -/
lemma destroyBuffer (h : c.Bound) (buffer : BufferHandle) : (c.destroyBuffer buffer).2.Bound := by
  rw [Context.destroyBuffer, BufferAllocator.destroy]
  cases c.buffers.find buffer with
  | error fault => exact h
  | ok record =>
    have hlive : ∀ bound : BufferHandle, bound ≠ buffer →
        c.buffers.records.contains bound = true →
          (c.buffers.records.erase buffer).contains bound = true := by
      intro bound hne hbound
      rw [Table.contains, Table.get?_erase, if_neg hne]
      exact hbound
    refine ⟨fun bound layout hbound => ?_, fun bound hbound => ?_⟩
    · obtain ⟨hvertex, hne⟩ := Option.filter_eq_some_iff.mp hbound
      obtain ⟨hbuffer, hlayout⟩ := h.vertex bound layout hvertex
      exact ⟨hlive bound (by simpa using hne) hbuffer, hlayout⟩
    · obtain ⟨hindex, hne⟩ := Option.filter_eq_some_iff.mp hbound
      exact hlive bound (by simpa using hne) (h.index bound hindex)

omit [Device δ P D] in
/-- Only a live buffer and a registered layout are bound for vertices. -/
lemma bindVertex (h : c.Bound) (buffer : BufferHandle) (layout : LayoutHandle) :
    (c.bindVertex buffer layout).2.Bound := by
  rw [Context.bindVertex, BufferAllocator.find, LayoutRegistry.find]
  cases hbuffer : c.buffers.records.get? buffer with
  | none => exact h
  | some record =>
    cases hlayout : c.layouts.records.get? layout with
    | none => exact h
    | some native =>
      refine ⟨fun buffer' layout' hbound => ?_, h.index⟩
      cases hbound
      exact ⟨by rw [Table.contains, hbuffer]; rfl, by rw [Table.contains, hlayout]; rfl⟩

omit [Device δ P D] in
/-- Only a live buffer is bound for indices. -/
lemma bindIndex (h : c.Bound) (buffer : BufferHandle) : (c.bindIndex buffer).2.Bound := by
  rw [Context.bindIndex, BufferAllocator.find]
  cases hbuffer : c.buffers.records.get? buffer with
  | none => exact h
  | some record =>
    refine ⟨h.vertex, fun buffer' hbound => ?_⟩
    cases hbound
    rw [Table.contains, hbuffer]
    rfl

end Context.Bound

variable [Device δ P D]

namespace Op

/-- Every operation keeps the bindings good. -/
theorem apply_bound (op : Op) {c : Context δ P D} (h : c.Bound) : (op.apply c).2.Bound := by
  have hchanges := op.changes_apply c
  cases op with
  | createBuffer usage size data =>
    rw [apply, replyWith_snd, Context.createBuffer]
    split
    · exact h
    · exact h.grows rfl (c.buffers.create_grows _ size data c.device c.host) (.refl _)
  | updateBuffer buffer offset data length =>
    rw [apply, replyWith_snd, Context.updateBuffer]
    exact h.grows rfl (c.buffers.update_grows buffer offset data length c.serial c.device)
      (.refl _)
  | destroyBuffer buffer =>
    rw [apply, replyWith_snd]
    exact h.destroyBuffer buffer
  | registerLayout stride count packed =>
    rw [apply, replyWith_snd, Context.registerLayout]
    exact h.grows rfl (.refl _) (c.layouts.register_grows stride count packed c.device)
  | bindVertex buffer layout =>
    rw [apply, replyWith_snd]
    exact h.bindVertex buffer layout
  | bindIndex buffer =>
    rw [apply, replyWith_snd]
    exact h.bindIndex buffer
  | set setting =>
    rw [apply, replyWith_snd]
    exact h.congr rfl rfl rfl
  | _ =>
    exact h.congr (hchanges.bindings_eq (by simp [calls]) (by simp [calls]))
      (hchanges.buffers_eq (by simp [calls])) (hchanges.layouts_eq (by simp [calls]))

/-- Every operation keeps the render state drawable. -/
theorem apply_drawable (op : Op) {c : Context δ P D} (h : c.tracker.snapshot.Drawable) :
    (op.apply c).2.tracker.snapshot.Drawable := by
  rw [tracker_apply]
  cases op with
  | set setting => exact c.tracker.apply_drawable setting h
  | _ => exact h

end Op

/-! ### Arguments -/

/-- A table of tokens has an entry for its own tokens only. -/
lemma Token.lookup_cases {κ ν : Type} [DecidableEq κ] (table : List (κ × ν)) (token : κ) :
    (token ∈ table.map (·.1) ∧ ∃ value, table.lookup token = some value) ∨
      (token ∉ table.map (·.1) ∧ table.lookup token = none) := by
  cases h : table.lookup token with
  | none =>
    rw [List.lookup_eq_none_iff] at h
    refine .inr ⟨fun hmem => ?_, rfl⟩
    obtain ⟨entry, hentry, rfl⟩ := List.mem_map.mp hmem
    simpa using h entry hentry
  | some value =>
    refine .inl ⟨?_, value, rfl⟩
    rw [List.lookup_eq_some_iff] at h
    obtain ⟨before, after, rfl, -⟩ := h
    simp

lemma Token.topology_cases (mode : UInt32) :
    (mode ∈ topologies.map (·.1) ∧ ∃ value, topology mode = .ok value) ∨
      (mode ∉ topologies.map (·.1) ∧ ∃ cause, topology mode = .error (.invalidArgument cause)) := by
  rw [topology]
  rcases lookup_cases topologies mode with ⟨hmem, value, hlookup⟩ | ⟨hmem, hlookup⟩
  · rw [hlookup]
    exact .inl ⟨hmem, value, rfl⟩
  · rw [hlookup]
    refine .inr ⟨hmem, ?_⟩
    dsimp only
    split <;> exact ⟨_, rfl⟩

lemma Token.indexFormat_cases (token : UInt32) :
    (token.toNat ∈ indexFormats.map (·.1) ∧ ∃ format, indexFormat token = .ok format) ∨
      (token.toNat ∉ indexFormats.map (·.1) ∧
        ∃ cause, indexFormat token = .error (.invalidArgument cause)) := by
  rw [indexFormat]
  rcases lookup_cases indexFormats token.toNat with ⟨hmem, value, hlookup⟩ | ⟨hmem, hlookup⟩
  · rw [hlookup]
    exact .inl ⟨hmem, value, rfl⟩
  · rw [hlookup]
    exact .inr ⟨hmem, _, rfl⟩

namespace Op

variable (c : Context δ P D)

/-- A draw is refused, or draws nothing, or draws something. -/
lemma draw_answers (mode : UInt32) (first count : ℤ) :
    let op : Op := .draw mode first count
    let good := mode ∈ Token.topologies.map (·.1) ∧ 0 ≤ first ∧ 0 ≤ count
    (¬ good → ∃ cause, op.apply c = (.error (.invalidArgument cause), c)) ∧
    (good → count = 0 → op.apply c = (.ok .done, c)) ∧
    (good → count ≠ 0 → ∃ topology, op.Draws topology (.vertices first.toNat count.toNat)) := by
  intro op good
  have happly : op.apply c = replyWith (fun _ => .done) (c.draw mode first count) := rfl
  rw [happly, Context.draw]
  rcases Token.topology_cases mode with ⟨hmode, topology, htopology⟩ | ⟨hmode, cause, hrefused⟩
  · rw [htopology]
    dsimp only
    refine ⟨fun hbad => ?_, fun hgood hzero => ?_, fun hgood hcount => ?_⟩
    · have hnegative : first < 0 ∨ count < 0 := by
        by_contra hnone
        exact hbad ⟨hmode, by omega, by omega⟩
      rw [if_pos hnegative]
      exact ⟨_, rfl⟩
    · obtain ⟨-, hfirst, -⟩ := hgood
      rw [if_neg (by omega), if_pos hzero]
      rfl
    · obtain ⟨-, hfirst, hnonneg⟩ := hgood
      exact ⟨topology, .vertices htopology hfirst (by omega)⟩
  · rw [hrefused]
    exact ⟨fun _ => ⟨cause, rfl⟩, fun hgood => absurd hgood.1 hmode,
      fun hgood => absurd hgood.1 hmode⟩

/-- An indexed draw is refused, or draws nothing, or draws something. -/
lemma drawIndexed_answers (mode : UInt32) (count : ℤ) (indexType : UInt32) :
    let op : Op := .drawIndexed mode count indexType
    let good := mode ∈ Token.topologies.map (·.1) ∧
      indexType.toNat ∈ Token.indexFormats.map (·.1) ∧ 0 ≤ count
    (¬ good → ∃ cause, op.apply c = (.error (.invalidArgument cause), c)) ∧
    (good → count = 0 → op.apply c = (.ok .done, c)) ∧
    (good → count ≠ 0 → ∃ topology format, Token.indexFormat indexType = .ok format ∧
      op.Draws topology (.indexed count.toNat format)) := by
  intro op good
  have happly : op.apply c = replyWith (fun _ => .done) (c.drawIndexed mode count indexType) := rfl
  rw [happly, Context.drawIndexed]
  rcases Token.topology_cases mode with ⟨hmode, topology, htopology⟩ | ⟨hmode, cause, hrefused⟩
  · rw [htopology]
    rcases Token.indexFormat_cases indexType with ⟨htype, format, hformat⟩ |
        ⟨htype, cause, hrefused⟩
    · rw [hformat]
      dsimp only
      refine ⟨fun hbad => ?_, fun hgood hzero => ?_, fun hgood hcount => ?_⟩
      · have hnegative : count < 0 := by
          by_contra hnone
          exact hbad ⟨hmode, htype, by omega⟩
        rw [if_pos hnegative]
        exact ⟨_, rfl⟩
      · rw [if_neg (by omega), if_pos hzero]
        rfl
      · obtain ⟨-, -, hnonneg⟩ := hgood
        exact ⟨topology, format, rfl, .indexed htopology hformat (by omega)⟩
    · rw [hrefused]
      exact ⟨fun _ => ⟨cause, rfl⟩, fun hgood => absurd hgood.2.1 htype,
        fun hgood => absurd hgood.2.1 htype⟩
  · rw [hrefused]
    exact ⟨fun _ => ⟨cause, rfl⟩, fun hgood => absurd hgood.1 hmode,
      fun hgood => absurd hgood.1 hmode⟩

end Op

/-! ### Look-ups of a draw -/

namespace Context

variable {c : Context δ P D}

omit [Device δ P D] in
lemma Bound.exists_bindingOf (buffer : Option BufferHandle)
    (hlive : ∀ handle, buffer = some handle → c.buffers.records.contains handle = true) :
    ∃ binding, c.bindingOf buffer = .ok binding := by
  cases buffer with
  | none => exact ⟨none, rfl⟩
  | some handle =>
    obtain ⟨record, hrecord⟩ := Option.isSome_iff_exists.mp (hlive handle rfl)
    rw [bindingOf, BufferAllocator.binding, BufferAllocator.find, hrecord]
    exact ⟨_, rfl⟩

omit [Device δ P D] in
/-- The look-ups of a draw succeed. An indexed draw needs a bound index buffer. -/
lemma Bound.exists_drawInputs (h : c.Bound) {kind : DrawKind}
    (hindex : ∀ count format, kind = .indexed count format → c.bindings.index ≠ none) :
    ∃ inputs, c.drawInputs kind = .ok inputs := by
  obtain ⟨vertex, hvertex⟩ := Bound.exists_bindingOf (c.bindings.vertex.map (·.1)) (by
    intro handle hhandle
    obtain ⟨⟨buffer, layout⟩, hbound, rfl⟩ := Option.map_eq_some_iff.mp hhandle
    exact (h.vertex buffer layout hbound).1)
  obtain ⟨index, hbindings⟩ := Bound.exists_bindingOf c.bindings.index h.index
  have hlayout : ∃ layout, c.boundLayout = .ok layout := by
    rw [boundLayout]
    cases hbound : c.bindings.vertex with
    | none => exact ⟨none, rfl⟩
    | some bound =>
      obtain ⟨record, hrecord⟩ := Option.isSome_iff_exists.mp (h.vertex _ _ hbound).2
      dsimp only
      rw [LayoutRegistry.find, hrecord]
      exact ⟨_, rfl⟩
  obtain ⟨layout, hlayout⟩ := hlayout
  have hcourse := c.drawInputs_course kind
  generalize c.drawInputs kind = out at hcourse ⊢
  cases hcourse with
  | unindexed hkind hnone => exact absurd hnone (hindex _ _ hkind)
  | noVertices hfault => cases hfault.symm.trans hvertex
  | noIndices hfault => cases hfault.symm.trans hbindings
  | noLayout hfault => cases hfault.symm.trans hlayout
  | found => exact ⟨_, rfl⟩

omit [Device δ P D] in
/-- An indexed draw without a bound index buffer is refused. -/
lemma drawInputs_unbound (h : c.bindings.index = none) (count : ℕ) (format : IndexFormat) :
    c.drawInputs (.indexed count format) = .error (.invalidArgument .indexBufferUnbound) := by
  rw [drawInputs]
  exact h

end Context

/-! ### Draws that go ahead -/

namespace FaultyDevice

/-- A device on which only compiling was done since: nothing but the compile counters differs, with
what is to fail there. -/
def Compiled (d d' : FaultyDevice) : Prop :=
  ∃ pipelineCompilations depthStencilCompilations failPipelines failDepthStencils,
    d' = { d with
      memory := { d.memory with
        pipelineCompilations, depthStencilCompilations, failPipelines, failDepthStencils } }

lemma Compiled.refl (d : FaultyDevice) : d.Compiled d :=
  ⟨d.memory.pipelineCompilations, d.memory.depthStencilCompilations, d.memory.failPipelines,
    d.memory.failDepthStencils, rfl⟩

/-- Compile calls leave the rest of the device. -/
lemma keeps_compiled (d : FaultyDevice) : Keeps d.Compiled [.compiling] := by
  rintro request hkind d' ⟨a, b, m, n, rfl⟩
  generalize hmemory : ({ d.memory with
    pipelineCompilations := a, depthStencilCompilations := b,
    failPipelines := m, failDepthStencils := n } : MemoryDevice) = memory
  have hinner := MemoryDevice.changes_perform request memory
  have hperform : (request.perform ({ d with memory } : FaultyDevice)).2 =
      { d with memory := (request.perform memory).2 } := by
    cases request with
    | compilePipeline key layout => rfl
    | compileDepthStencil key => rfl
    | _ => simp [Request.kind] at hkind
  rw [hperform]
  rw [List.mem_singleton.mp hkind] at hinner
  generalize (request.perform memory).2 = memory' at hinner ⊢
  subst hmemory
  cases hinner
  exact ⟨_, _, _, _, rfl⟩

end FaultyDevice

/-- What a draw comes to whose arguments are good: its state passes the checks and its buffers and
layout are found; it only compiles, encodes and submits; it is done where the device does all of
that, and fails where the device refuses some. Where compiling is refused, the context and the
device stay as they were but for the cache and the compile counters. -/
structure Op.GoesAhead (op : Op) (kind : DrawKind) (c : HostContext FaultyDevice) : Prop where
  check : c.tracker.snapshot.check = .ok ()
  inputs : ∃ inputs, c.drawInputs kind = .ok inputs
  calls : ∀ e ∈ op.exchanges c, e.request.kind ∈ [.compiling, .drawing, .submitting]
  answer : ((op.apply c).1 = .ok .done ∧ ∀ e ∈ op.exchanges c, e.accepted = true) ∨
    ((∃ fault, (op.apply c).1 = .error fault) ∧ ∃ e ∈ op.exchanges c, e.accepted = false)
  uncompiled : (∃ e ∈ op.exchanges c, e.request.kind = .compiling ∧ e.accepted = false) →
    ∃ cache device, (op.apply c).2 = { c with cache, device } ∧ c.device.Compiled device

/-- A unit is done where both of its calls are. -/
lemma Fault.orDone_cases {compiled : List (Exchange δ P D)}
    (hcompiled : ∀ e ∈ compiled, e.accepted = true) (request : Request P D) (d : δ) :
    let es := compiled ++ [Exchange.of request d, Exchange.of .submit (request.perform d).2]
    let answer : Except Fault Reply := orDone (request.failure d)
      (Request.failure (.submit : Request P D) (request.perform d).2) .done
    (answer = .ok .done ∧ ∀ e ∈ es, e.accepted = true) ∨
      ((∃ fault, answer = .error fault) ∧ ∃ e ∈ es, e.accepted = false) := by
  intro es answer
  have hencoding := Exchange.accepted_of_iff request d
  have hsubmission := Exchange.accepted_of_iff (.submit : Request P D) (request.perform d).2
  cases hencoded : request.failure d with
  | some fault =>
    rw [hencoded] at hencoding
    exact .inr ⟨⟨.ofDevice fault, by simp [answer, orDone, hencoded]⟩, .of request d,
      by simp [es], by simpa using hencoding⟩
  | none =>
    cases hsubmitted : Request.failure (.submit : Request P D) (request.perform d).2 with
    | some fault =>
      rw [hsubmitted] at hsubmission
      exact .inr ⟨⟨.ofDevice fault, by simp [answer, orDone, hencoded, hsubmitted]⟩,
        .of .submit (request.perform d).2, by simp [es], by simpa using hsubmission⟩
    | none =>
      refine .inl ⟨by simp [answer, orDone, hencoded, hsubmitted], fun e he => ?_⟩
      rcases List.mem_append.mp he with hold | hunit
      · exact hcompiled e hold
      · rcases List.mem_pair.mp hunit with rfl | rfl
        · exact hencoding.mpr hencoded
        · exact hsubmission.mpr hsubmitted

/-- A draw of a good kind goes ahead. -/
lemma Op.Draws.goesAhead {op : Op} {topology : Topology} {kind : DrawKind}
    (hdraws : op.Draws topology kind) {c : HostContext FaultyDevice}
    (hdrawable : c.tracker.snapshot.Drawable) (hbound : c.Bound)
    (hindex : ∀ count format, kind = .indexed count format → c.bindings.index ≠ none) :
    op.GoesAhead kind c := by
  have hcheck := hdrawable.check_eq
  obtain ⟨inputs, hinputs⟩ := hbound.exists_drawInputs hindex
  have hcalls : ∀ e ∈ op.exchanges c, e.request.kind ∈ [.compiling, .drawing, .submitting] := by
    intro e he
    have hkind := (op.linked_exchanges c).2 e he
    cases hdraws <;> exact hkind
  rcases hresolved : c.resolveDraw topology inputs with ⟨answer, cache, d⟩
  cases answer with
  | error fault =>
    obtain ⟨happly, hkinds, hrefused⟩ := exchanges_of_unresolved hdraws hinputs hresolved
    refine ⟨hcheck, ⟨inputs, hinputs⟩, hcalls, .inr ⟨⟨fault, by rw [happly]⟩, hrefused hcheck⟩,
      fun _ => ⟨cache, d, by rw [happly], ?_⟩⟩
    have hkept : c.device.Compiled (c.resolveDraw topology inputs).2.2 :=
      DrawConfig.resolve_keeps c.device.keeps_compiled (.refl c.device) _ _ _ _
    rw [hresolved] at hkept
    exact hkept
  | ok config =>
    obtain ⟨compiled, hcompiled, hexchanges, hanswer⟩ := submits_of_draws hdraws hinputs hresolved
    rw [hexchanges] at hcalls
    refine ⟨hcheck, ⟨inputs, hinputs⟩, by rw [hexchanges]; exact hcalls, ?_, ?_⟩
    · rw [hexchanges, hanswer]
      exact Fault.orDone_cases (fun e he => (hcompiled e he).2) _ d
    · rintro ⟨e, he, hkind, hrefused⟩
      rw [hexchanges] at he
      rcases List.mem_append.mp he with hold | hunit
      · rw [(hcompiled e hold).2] at hrefused
        cases hrefused
      · rcases List.mem_pair.mp hunit with rfl | rfl <;> cases hkind

/-! ### Runs -/

/-- In every run the render state stays drawable and the bindings stay good. -/
theorem Step.run_drawable {α : Type} [Adjustable δ α] (steps : List (Step α))
    {c : Context δ P D} (hdrawable : c.tracker.snapshot.Drawable) (hbound : c.Bound) :
    (run steps c).tracker.snapshot.Drawable ∧ (run steps c).Bound := by
  refine run_induction (I := fun c => c.tracker.snapshot.Drawable ∧ c.Bound)
    (fun step c hc => ?_) steps ⟨hdrawable, hbound⟩
  cases step with
  | perform op => exact ⟨op.apply_drawable hc.1, op.apply_bound hc.2⟩
  | adjust change => exact ⟨hc.1, hc.2.congr rfl rfl rfl⟩
  | setUi _ | setHost _ => exact ⟨hc.1, hc.2.congr rfl rfl rfl⟩

/-- **Draws fail exactly where they must.** In every state of every run on a device in host memory,
whatever fails, viewport and scissor can be drawn with and the bindings are good. So a draw whose
mode is not in the table, or with a negative argument, is refused as an invalid argument and changes
nothing; a draw of nothing is done and changes nothing; any other goes ahead. The same holds of
indexed draws, with the table of index types too, but that one without a bound index buffer is
refused as an invalid argument and changes nothing. -/
theorem draws_fail_exactly (config : Config) (ui : UiThread) (d : FaultyDevice)
    (steps : List (Step Arming)) :
    let c : HostContext FaultyDevice := Step.run steps (.ofDevice config ui d)
    c.tracker.snapshot.Drawable ∧ c.Bound ∧
    (∀ mode first count, let op : Op := .draw mode first count
      let good := mode ∈ Token.topologies.map (·.1) ∧ 0 ≤ first ∧ 0 ≤ count
      (¬ good → ∃ cause, op.apply c = (.error (.invalidArgument cause), c)) ∧
      (good → count = 0 → op.apply c = (.ok .done, c)) ∧
      (good → count ≠ 0 → op.GoesAhead (.vertices first.toNat count.toNat) c)) ∧
    (∀ mode count indexType, let op : Op := .drawIndexed mode count indexType
      let good := mode ∈ Token.topologies.map (·.1) ∧
        indexType.toNat ∈ Token.indexFormats.map (·.1) ∧ 0 ≤ count
      (¬ good → ∃ cause, op.apply c = (.error (.invalidArgument cause), c)) ∧
      (good → count = 0 → op.apply c = (.ok .done, c)) ∧
      (good → count ≠ 0 → c.bindings.index = none →
        op.apply c = (.error (.invalidArgument .indexBufferUnbound), c)) ∧
      (good → count ≠ 0 → c.bindings.index ≠ none →
        ∃ format, Token.indexFormat indexType = .ok format ∧
          op.GoesAhead (.indexed count.toNat format) c)) := by
  intro c
  obtain ⟨hdrawable, hbound⟩ := Step.run_drawable steps
    (c := (.ofDevice config ui d : HostContext FaultyDevice)) Snapshot.drawable_initial
    (.ofDevice config ui d)
  refine ⟨hdrawable, hbound, fun mode first count => ?_, fun mode count indexType => ?_⟩
  · obtain ⟨hrefused, hnothing, hdraws⟩ := Op.draw_answers c mode first count
    refine ⟨hrefused, hnothing, fun hgood hcount => ?_⟩
    obtain ⟨topology, hdraws⟩ := hdraws hgood hcount
    exact hdraws.goesAhead hdrawable hbound nofun
  · obtain ⟨hrefused, hnothing, hdraws⟩ := Op.drawIndexed_answers c mode count indexType
    refine ⟨hrefused, hnothing, fun hgood hcount hunbound => ?_, fun hgood hcount hbind => ?_⟩
    · obtain ⟨topology, format, -, hdraws⟩ := hdraws hgood hcount
      rw [hdraws.apply_eq, Context.drawUnit_of_refused (c.drawInputs_unbound hunbound _ _)]
      rfl
    · obtain ⟨topology, format, hformat, hdraws⟩ := hdraws hgood hcount
      exact ⟨format, hformat, hdraws.goesAhead hdrawable hbound fun _ _ _ => hbind⟩

/-- A viewport below one in width and height and up to an infinite depth, and a pipeline that is to
be refused. -/
def refusedRun : List (Step Arming) := [
  .perform (.set (.viewport 0 0 (-5) 0 .zero ⟨0x7f800000⟩)),
  .adjust ⟨.pipeline, 1, .resource .encodeFailureArmed⟩]

/-- The viewport is drawable; the draw goes ahead and the refused pipeline is its failure. Without
an index buffer the indexed draw is refused. -/
theorem draws_fail_exactly_refusedRun :
    let c : HostContext FaultyDevice :=
      Step.run refusedRun (.ofDevice {} .stopped (.ofAlignment 1))
    c.tracker.snapshot.viewport = ⟨0, 0, 1, 1, .zero, .one⟩ ∧
      ((Op.exchanges (.draw Token.triangles 0 3) c).map fun e => (e.request.kind, e.accepted)) =
        [(.compiling, false)] ∧
      Op.GoesAhead (.draw Token.triangles 0 3) (.vertices 0 3) c ∧
      Op.apply (.drawIndexed Token.triangles 3 0x1403) c =
        (.error (.invalidArgument .indexBufferUnbound), c) := by
  obtain ⟨-, -, hdraw, hindexed⟩ := draws_fail_exactly {} .stopped (.ofAlignment 1) refusedRun
  exact ⟨by decide +kernel, by decide +kernel, (hdraw _ 0 3).2.2 (by decide) (by decide),
    (hindexed _ 3 0x1403).2.2.1 (by decide) (by decide) (by decide +kernel)⟩

end RenderBridge
