import RenderBridge.Proofs.Gpu.Lifecycle
import RenderBridge.Proofs.Gpu.Memory
import RenderBridge.Proofs.Vertex.Layout
/-!
Every call that has to do with buffers reaches the graphics machine well formed.

* `Op.aligned_of_not_forms`: the refusals of the engine's own are for other reasons than alignment.
* `Context.HoldsBuffers`: the buffers of a context are the ones that were made on its machine, in
  well-formed calls.
* `Op.holdsAfter`: every operation keeps all this, and **none fails for an alignment**.
* `Step.run_holdsBuffers`, `calls_well_formed`: so every call of every run is well formed.
-/

set_option autoImplicit false

namespace RenderBridge

/-! ### Failures of the engine's own -/

lemma UiThread.run_aligned {α : Type} {ui : UiThread} {job : String → α} {fault : Fault}
    (h : ui.run job = .error fault) : fault.IsAlignment = false := by
  cases ui <;> cases h <;> rfl

section

variable {δ P D : Type}

lemma BufferAllocator.find_aligned {a : BufferAllocator} {buffer : BufferHandle} {fault : Fault}
    (h : a.find buffer = .error fault) : fault.IsAlignment = false := by
  rcases a.find_cases buffer with ⟨r, -, hfind⟩ | ⟨-, hfind⟩
  · cases h.symm.trans hfind
  · cases h.symm.trans hfind
    rfl

lemma LayoutRegistry.find_aligned {r : LayoutRegistry} {layout : LayoutHandle} {fault : Fault}
    (h : r.find layout = .error fault) : fault.IsAlignment = false := by
  rw [find] at h
  split at h
  · cases h
  · cases h
    rfl

namespace Context

variable {c : Context δ P D} {fault : Fault}

lemma bindingOf_aligned {buffer : Option BufferHandle} (h : c.bindingOf buffer = .error fault) :
    fault.IsAlignment = false := by
  cases buffer with
  | none => cases h
  | some buffer =>
    rw [bindingOf, BufferAllocator.binding] at h
    split at h
    · cases h
    · rename_i fault' hbinding
      cases h
      split at hbinding
      · cases hbinding
      · rename_i hfind
        cases hbinding
        exact BufferAllocator.find_aligned hfind

lemma boundLayout_aligned (h : c.boundLayout = .error fault) : fault.IsAlignment = false := by
  rw [boundLayout] at h
  split at h
  · cases h
  · split at h
    · cases h
    · rename_i hfind
      cases h
      exact LayoutRegistry.find_aligned hfind

lemma drawInputs_aligned {kind : DrawKind} (h : c.drawInputs kind = .error fault) :
    fault.IsAlignment = false := by
  have hcourse := c.drawInputs_course kind
  rw [h] at hcourse
  cases hcourse with
  | unindexed => rfl
  | noVertices hvertex => exact bindingOf_aligned hvertex
  | noIndices hindex => exact bindingOf_aligned hindex
  | noLayout hlayout => exact boundLayout_aligned hlayout

end Context

end

namespace GpuDevice

/-- Compiling fails for other reasons. -/
lemma resolve_aligned {s : Snapshot} {target : DrawTarget} {layout : Option VertexLayout}
    {cache cache' : Cache GpuPipeline GpuDepthStencil} {d d' : GpuDevice} {fault : Fault}
    (h : DrawConfig.resolve s target layout cache d = (.error fault, cache', d')) :
    fault.IsAlignment = false := by
  rcases DrawConfig.resolve_cases s target layout cache d with
    ⟨fault, hcheck, heq⟩ | ⟨fault, cache₁, d₁, hp, heq⟩ |
      ⟨p, fault, cache₁, d₁, cache₂, d₂, -, hq, heq⟩ | ⟨p, q, cache₁, d₁, cache₂, d₂, -, -, heq⟩
  · cases h.symm.trans heq
    rw [Snapshot.check] at hcheck
    split_ifs at hcheck <;>
      · cases hcheck
        rfl
  · cases h.symm.trans heq
    rw [Cache.pipeline] at hp
    split at hp
    · cases hp
    · split at hp
      · cases hp
      · rename_i reason d' hcompile
        cases hp
        have haligned := (apart_compilePipeline (.of s target) layout d).aligned
        exact haligned reason (congrArg Prod.fst hcompile)
  · cases h.symm.trans heq
    rw [Cache.depthStencil] at hq
    split at hq
    · cases hq
    · cases hq
  · cases h.symm.trans heq

/-- A layout is refused for what it says. -/
lemma register_aligned {layouts layouts' : LayoutRegistry} {stride count : ℤ} {packed : Bytes}
    {d d' : GpuDevice} {fault : Fault}
    (h : layouts.register stride count packed d = (.error fault, layouts', d')) :
    fault.IsAlignment = false := by
  rw [LayoutRegistry.register] at h
  cases hparse : VertexLayout.parse stride count packed with
  | error fault' =>
    rw [hparse] at h
    cases h
    obtain ⟨cause, rfl, hown⟩ := VertexLayout.parse_error hparse
    exact Fault.isAlignment_of_isOwn hown
  | ok layout =>
    have hcreate := (apart_perform (.createLayout layout) (by simp [Request.kind]) d).aligned
    rw [hparse] at h
    dsimp only at h
    rcases hcall : (Device.createLayout layout d : Except DeviceFault VertexLayout × GpuDevice) with
      ⟨_ | native, d₁⟩
    · rename_i reason
      rw [hcall] at h
      cases h
      rw [Fault.isAlignment_ofDevice]
      exact hcreate reason (congrArg Prod.fst hcall)
    · rw [hcall] at h
      dsimp only at h
      rw [LayoutRegistry.issue] at h
      split at h
      · cases h
      · cases h
        rfl

end GpuDevice

/-! ### Operations -/

namespace Op

variable {c : GpuContext} {fault : Fault}

lemma error_of_replyWith {δ P D α : Type} {reply : α → Reply}
    {outcome : Except Fault α × Context δ P D} (h : (replyWith reply outcome).1 = .error fault) :
    outcome.1 = .error fault := by
  rcases outcome with ⟨_ | value, c⟩ <;> cases h
  rfl

/-- A setting is refused for what it says. -/
lemma set_aligned {setting : Setting} (h : (apply (.set setting) c).1 = .error fault) :
    fault.IsAlignment = false := by
  have hedit := error_of_replyWith h
  rw [Context.set, Tracker.apply] at hedit
  dsimp only at hedit
  split at hedit
  · cases hedit
  · rename_i fault' hrefused
    cases hedit
    cases setting with
    | viewport x y width height minDepth maxDepth =>
      rw [Setting.edit] at hrefused
      split at hrefused
      · cases hrefused
      · rename_i hrange
        cases hrefused
        rw [Setting.depthRange] at hrange
        dsimp only at hrange
        split_ifs at hrange <;>
          · cases hrange
            rfl
    | _ => cases hrefused

lemma resize_aligned {width height : ℤ} {scale : Single} {fullscreen : Bool}
    (h : (apply (.resize width height scale fullscreen) c).1 = .error fault) :
    fault.IsAlignment = false := by
  have hresize := error_of_replyWith h
  rw [Context.resize] at hresize
  split at hresize
  · cases hresize
    rfl
  · dsimp only at hresize
    split at hresize
    · rename_i fault' hrun
      cases hresize
      exact UiThread.run_aligned hrun
    · split at hresize
      · rename_i d _ _ reason d' hcall
        cases hresize
        rw [Fault.isAlignment_ofDevice]
        exact (GpuDevice.apart_resizeTargets _ _ d).aligned reason (congrArg Prod.fst hcall)
      · cases hresize

lemma present_aligned (h : (apply .present c).1 = .error fault) : fault.IsAlignment = false := by
  have hpresent := error_of_replyWith h
  cases hpresent

lemma registerLayout_aligned {stride count : ℤ} {packed : Bytes}
    (h : (apply (.registerLayout stride count packed) c).1 = .error fault) :
    fault.IsAlignment = false := by
  have hregister := error_of_replyWith h
  rcases hcall : c.layouts.register stride count packed c.device with ⟨answer, layouts, d⟩
  rw [Context.registerLayout, hcall] at hregister
  obtain rfl : answer = .error fault := hregister
  exact GpuDevice.register_aligned hcall

lemma bindVertex_aligned {buffer : BufferHandle} {layout : LayoutHandle}
    (h : (apply (.bindVertex buffer layout) c).1 = .error fault) : fault.IsAlignment = false := by
  have hbind := error_of_replyWith h
  rw [Context.bindVertex] at hbind
  split at hbind
  · rename_i hfind
    cases hbind
    exact BufferAllocator.find_aligned hfind
  · split at hbind
    · rename_i hfind
      cases hbind
      exact LayoutRegistry.find_aligned hfind
    · cases hbind

lemma bindIndex_aligned {buffer : BufferHandle}
    (h : (apply (.bindIndex buffer) c).1 = .error fault) : fault.IsAlignment = false := by
  have hbind := error_of_replyWith h
  rw [Context.bindIndex] at hbind
  split at hbind
  · rename_i hfind
    cases hbind
    exact BufferAllocator.find_aligned hfind
  · cases hbind

/-- Arguments of draws as they come, in words of 32 bits with a sign. -/
def InWords : Op → Prop
  | .draw _ first count => first < 2 ^ 31 ∧ count < 2 ^ 31
  | .drawIndexed _ count _ => count < 2 ^ 31
  | _ => True

end Op

/-! ### The buffers of a context -/

/-- The buffers of a context were made on its machine since `start`, and are laid out there. Every
call since then was well formed. -/
def Context.HoldsBuffers (start : List GpuEvent) (c : GpuContext) : Prop :=
  ∃ h, GpuDevice.Holds start h c.device ∧ c.buffers.Laid h

/-- What an operation leaves: all of that, and no alignment that was refused. -/
structure Context.HoldsAfter {α : Type} (start : List GpuEvent)
    (out : Except Fault α × GpuContext) : Prop where
  holds : out.2.HoldsBuffers start
  aligned : ∀ fault, out.1 = .error fault → fault.IsAlignment = false

variable {start : List GpuEvent} {c : GpuContext}

lemma Context.HoldsAfter.replyWith {α : Type} {reply : α → Reply}
    {out : Except Fault α × GpuContext} (h : HoldsAfter start out) :
    HoldsAfter start (Op.replyWith reply out) where
  holds := by
    rw [Op.replyWith_snd]
    exact h.holds
  aligned fault heq := h.aligned fault (Op.error_of_replyWith heq)

namespace Context

/-! ### Memory -/

lemma createBuffer_holds (hc : c.HoldsBuffers start) (usage size : ℤ) (data : Option Bytes) :
    HoldsAfter start (c.createBuffer usage size data) := by
  obtain ⟨h, hd, ha⟩ := hc
  rw [createBuffer]
  cases htoken : BufferUsage.ofToken usage with
  | error fault =>
    refine ⟨⟨h, hd, ha⟩, ?_⟩
    rintro _ ⟨⟩
    rw [BufferUsage.ofToken] at htoken
    split_ifs at htoken
    cases htoken
    rfl
  | ok use =>
    obtain ⟨answer, a, h', d, hcall, hkeeps, ha'⟩ :=
      BufferAllocator.create_keeps (GpuDevice.contract start) hd ha use size data c.host
    dsimp only
    rw [hcall]
    exact ⟨⟨h', hkeeps.kept, ha'⟩, hkeeps.aligned⟩

lemma updateBuffer_holds (hc : c.HoldsBuffers start) (buffer : BufferHandle) (offset : ℤ)
    (data : Option Bytes) (length : ℤ) :
    HoldsAfter start (c.updateBuffer buffer offset data length) := by
  obtain ⟨h, hd, ha⟩ := hc
  obtain ⟨answer, a, h', d, hcall, hkeeps, ha'⟩ :=
    BufferAllocator.update_keeps (GpuDevice.contract start) hd ha buffer offset data length c.serial
  rw [updateBuffer, hcall]
  exact ⟨⟨h', hkeeps.kept, ha'⟩, hkeeps.aligned⟩

lemma destroyBuffer_holds (hc : c.HoldsBuffers start) (buffer : BufferHandle) :
    HoldsAfter start (c.destroyBuffer buffer) := by
  obtain ⟨h, hd, ha⟩ := hc
  obtain ⟨answer, a, d, hcall, hkeeps, ha'⟩ :=
    BufferAllocator.destroy_keeps (GpuDevice.contract start) hd ha buffer
  rw [destroyBuffer, hcall]
  cases answer with
  | ok _ => exact ⟨⟨h, hkeeps.kept, ha'⟩, by rintro _ ⟨⟩⟩
  | error fault => exact ⟨⟨h, hkeeps.kept, ha'⟩, hkeeps.aligned⟩

end Context

/-! ### Draws -/

/-- What a draw reads lies inside the buffers. -/
lemma Op.Draws.readsInside {op : Op} {topology : Topology} {kind : DrawKind} {inputs : DrawInputs}
    {h : Heap} (hdraws : op.Draws topology kind) (hwords : op.InWords) (ha : c.buffers.Laid h)
    (hgranule : h.granule = 4) (hinputs : c.drawInputs kind = .ok inputs) :
    DrawCall.ReadsInside h ⟨kind, inputs.vertex, inputs.index⟩ := by
  have hin := c.drawInputs_ok hinputs
  have hbound : ∀ handle (b : BufferBinding),
      (c.buffers.records.get? handle).map (·.binding c.serial) = some b →
        4 ∣ b.offset ∧ 0 < b.size ∧ h.Inside b.buffer b.offset b.size := by
    intro handle b hsome
    obtain ⟨r, hlive, rfl⟩ := Option.map_eq_some_iff.mp hsome
    obtain ⟨hoffset, hpos, hle⟩ := ha.binding hlive c.serial
    exact ⟨hgranule ▸ hoffset, hpos, hpos, hle⟩
  refine ⟨fun b hvertex => ?_, fun b hindex => ?_, ?_, ?_⟩
  · obtain ⟨bound, -, hsome⟩ := Option.bind_eq_some_iff.mp (hin.vertex.symm.trans hvertex)
    exact hbound bound.1 b hsome
  · obtain ⟨bound, -, hsome⟩ := Option.bind_eq_some_iff.mp (hin.index.symm.trans hindex)
    exact hbound bound b hsome
  · rintro first count ⟨⟩
    cases hdraws with
    | vertices _ hfirst hcount =>
      obtain ⟨hfirst', hcount'⟩ := hwords
      omega
  · rintro count format ⟨⟩
    cases hdraws with
    | indexed _ _ hcount =>
      have hcount' : _ < (2 : ℤ) ^ 31 := hwords
      omega

namespace Token

variable {fault : Fault}

lemma topology_aligned {mode : UInt32} (h : topology mode = .error fault) :
    fault.IsAlignment = false := by
  rw [topology] at h
  split at h
  · cases h
  · split_ifs at h <;>
      · cases h
        rfl

lemma indexFormat_aligned {token : UInt32} (h : indexFormat token = .error fault) :
    fault.IsAlignment = false := by
  rw [indexFormat] at h
  split at h
  · cases h
  · cases h
    rfl

end Token

lemma GpuDevice.keeps_holds {h : Heap} {kinds : List CallKind} (hmemory : .memory ∉ kinds)
    (hdraw : .drawing ∉ kinds) : Keeps (Holds start h) kinds := by
  intro request hkind d hd
  refine (apart_perform request ?_ d).holds hd
  rintro hmem
  rcases List.mem_cons.mp hmem with heq | hmem
  · exact hmemory (heq ▸ hkind)
  · exact hdraw (List.mem_singleton.mp hmem ▸ hkind)

namespace Op

variable {op : Op}

lemma draw_aligned {mode : UInt32} {first count : ℤ}
    (hdraws : ∀ topology kind, ¬ Draws (.draw mode first count) topology kind) {fault : Fault}
    (h : (apply (.draw mode first count) c).1 = .error fault) : fault.IsAlignment = false := by
  have hdraw := error_of_replyWith h
  rw [Context.draw] at hdraw
  split at hdraw
  · rename_i htopology
    cases hdraw
    exact Token.topology_aligned htopology
  · rename_i htopology
    split_ifs at hdraw with hnegative hzero
    · cases hdraw
      rfl
    · exact absurd (.vertices htopology (by omega) (by omega)) (hdraws _ _)

lemma drawIndexed_aligned {mode indexType : UInt32} {count : ℤ}
    (hdraws : ∀ topology kind, ¬ Draws (.drawIndexed mode count indexType) topology kind)
    {fault : Fault} (h : (apply (.drawIndexed mode count indexType) c).1 = .error fault) :
    fault.IsAlignment = false := by
  have hdraw := error_of_replyWith h
  rw [Context.drawIndexed] at hdraw
  split at hdraw
  · rename_i htopology
    cases hdraw
    exact Token.topology_aligned htopology
  · rename_i htopology
    split at hdraw
    · rename_i hformat
      cases hdraw
      exact Token.indexFormat_aligned hformat
    · rename_i hformat
      split_ifs at hdraw with hnegative hzero
      · cases hdraw
        rfl
      · exact absurd (.indexed htopology hformat (by omega)) (hdraws _ _)

/-- A draw without a unit of work is refused for its inputs or its state. -/
lemma Draws.aligned {topology : Topology} {kind : DrawKind} (hdraws : op.Draws topology kind)
    (hforms : ∀ request d, ¬ op.Forms c request d) {fault : Fault}
    (h : (op.apply c).1 = .error fault) : fault.IsAlignment = false := by
  rw [hdraws.apply_eq] at h
  have hunit := error_of_replyWith h
  rcases c.drawUnit_cases topology kind with ⟨fault', hinputs, hcall⟩ |
      ⟨inputs, fault', cache, d, -, hresolve, hcall⟩ |
        ⟨inputs, config, cache, d, hinputs, hresolve, -⟩
  · rw [hcall] at hunit
    cases hunit
    exact Context.drawInputs_aligned hinputs
  · rw [hcall] at hunit
    cases hunit
    exact GpuDevice.resolve_aligned hresolve
  · exact absurd (.draw hdraws hinputs hresolve) (hforms _ _)

/-- An operation without a unit of work that has nothing to do with memory is not refused for an
alignment. -/
lemma aligned_of_not_forms (hmemory : .memory ∉ op.calls)
    (hforms : ∀ request d, ¬ op.Forms c request d) {fault : Fault}
    (h : (op.apply c).1 = .error fault) : fault.IsAlignment = false := by
  by_cases hdraws : ∃ topology kind, op.Draws topology kind
  · obtain ⟨topology, kind, hdraws⟩ := hdraws
    exact hdraws.aligned hforms h
  · have hnone : ∀ topology kind, ¬ op.Draws topology kind := fun topology kind hdraw =>
      hdraws ⟨topology, kind, hdraw⟩
    cases op with
    | set setting => exact set_aligned h
    | resize width height scale fullscreen => exact resize_aligned h
    | clear color => exact absurd (.clear color) (hforms _ _)
    | present => exact present_aligned h
    | createBuffer => simp [calls] at hmemory
    | updateBuffer => simp [calls] at hmemory
    | destroyBuffer => simp [calls] at hmemory
    | registerLayout stride count packed => exact registerLayout_aligned h
    | bindVertex buffer layout => exact bindVertex_aligned h
    | bindIndex buffer => exact bindIndex_aligned h
    | draw mode first count => exact draw_aligned hnone h
    | drawIndexed mode count indexType => exact drawIndexed_aligned hnone h

/-- A unit of work is encoded in well-formed calls and submitted. -/
lemma Forms.holdsAfter {request : GpuDevice.Call} {d : GpuDevice} (hforms : op.Forms c request d)
    (hwords : op.InWords) (hc : c.HoldsBuffers start) :
    Context.HoldsAfter start (op.apply c) := by
  obtain ⟨h, hd, ha⟩ := hc
  obtain ⟨compiled, hcompiled, -, hlinked, hafter⟩ := linked_of_forms hforms
  obtain ⟨-, -, -, hanswer⟩ := submits_of_forms hforms
  have hbefore : GpuDevice.Holds start h d :=
    (hlinked.keeps (GpuDevice.keeps_holds (by decide) (by decide))
      (fun e he => List.mem_singleton.mpr (hcompiled e he)) hd).2
  have hencoded : GpuDevice.Holds start h (request.perform d).2 ∧
      ∀ fault, (request.perform d).1 = .error fault → fault.cause.IsAlignment = false := by
    cases hforms with
    | clear color =>
      have hclear := GpuDevice.apart_perform (.clear (Context.clampColor color))
        (by simp [Request.kind]) c.device
      exact ⟨hclear.holds hbefore, hclear.aligned⟩
    | draw hdraws hinputs _ =>
      exact GpuDevice.holds_encodeDraw hbefore (hdraws.readsInside hwords ha hd.granule hinputs) _
  have hmemory : .memory ∉ op.calls := by
    cases hforms with
    | clear => simp [calls]
    | draw hdraws => cases hdraws <;> simp [calls]
  refine ⟨⟨h, ?_, ?_⟩, fun fault hfault => ?_⟩
  · rw [← hafter]
    exact (GpuDevice.apart_submit _).holds hencoded.1
  · rw [(op.changes_apply c).buffers_eq hmemory]
    exact ha
  · have hsubmit : Request.failure (.submit : GpuDevice.Call) (request.perform d).2 = none := rfl
    rw [hanswer, hsubmit, Request.failure, Fault.orDone] at hfault
    cases hcall : (request.perform d).1 with
    | ok answer =>
      rw [hcall] at hfault
      cases hfault
    | error reason =>
      rw [hcall] at hfault
      cases hfault
      rw [Fault.isAlignment_ofDevice]
      exact hencoded.2 reason hcall

/-- Every operation keeps the buffers, and never fails for an alignment. -/
theorem holdsAfter (op : Op) (hwords : op.InWords) (hc : c.HoldsBuffers start) :
    Context.HoldsAfter start (op.apply c) := by
  by_cases hmemory : .memory ∈ op.calls
  · cases op with
    | createBuffer usage size data =>
      exact (Context.createBuffer_holds hc usage size data).replyWith
    | updateBuffer buffer offset data length =>
      exact (Context.updateBuffer_holds hc buffer offset data length).replyWith
    | destroyBuffer buffer => exact (Context.destroyBuffer_holds hc buffer).replyWith
    | _ => simp [calls] at hmemory
  · by_cases hforms : ∃ request d, op.Forms c request d
    · obtain ⟨request, d, hforms⟩ := hforms
      exact hforms.holdsAfter hwords hc
    · have hnone : ∀ request d, ¬ op.Forms c request d := fun request d hforms' =>
        hforms ⟨request, d, hforms'⟩
      obtain ⟨h, hd, ha⟩ := hc
      obtain ⟨hlinked, hcalls⟩ := op.linked_exchanges c
      have hkeeps : Keeps (GpuDevice.Holds start h) (op.calls.filter (· ≠ .drawing)) :=
        GpuDevice.keeps_holds (by simp [hmemory]) (by simp)
      have hkept := hlinked.keeps hkeeps (fun e he => ?_) hd
      · refine ⟨⟨h, hkept.2, ?_⟩, fun fault => aligned_of_not_forms hmemory hnone⟩
        rw [(op.changes_apply c).buffers_eq hmemory]
        exact ha
      · have hkind := kind_of_not_forms hnone e he
        refine List.mem_filter.mpr ⟨hcalls e he, ?_⟩
        grind

end Op

/-! ### Runs -/

/-- Every run keeps the buffers. -/
theorem Step.run_holdsBuffers (steps : List (Step MachineAnswers))
    (hwords : ∀ op, .perform op ∈ steps → op.InWords) (hc : c.HoldsBuffers start) :
    (run steps c).HoldsBuffers start := by
  induction steps generalizing c with
  | nil => exact hc
  | cons step steps ih =>
    rw [run_cons]
    refine ih (fun op hop => hwords op (List.mem_cons_of_mem _ hop)) ?_
    cases step with
    | perform op => exact (op.holdsAfter (hwords op List.mem_cons_self) hc).holds
    | adjust answers =>
      obtain ⟨h, hd, ha⟩ := hc
      exact ⟨h, hd.of_log (List.append_nil _).symm rfl (List.forall_mem_nil _), ha⟩
    | setUi _ | setHost _ => exact hc

/-- A context that is opened has no buffers. -/
lemma Context.holdsBuffers_of_open {config : Config} {ui : UiThread} {script : GpuScript}
    {init : GpuInit} {world : Recorder}
    (h : Context.openWith config ui (GpuDevice.factory script init) world = .ok c) :
    c.HoldsBuffers c.device.recorder.log := by
  obtain ⟨r, d, -, rfl⟩ := device_of_open h
  refine ⟨⟨GpuDevice.copyAlignment, d.recorder.buffers, {}⟩, ⟨rfl, rfl, [], ?_⟩, ?_⟩
  · refine ⟨(List.append_nil _).symm, ?_, List.nodup_nil, List.forall_mem_nil _, ?_⟩
    · intro before e after hsplit
      cases before <;> cases hsplit
    · rintro buffer offset length ⟨hpos, hle⟩
      have hempty : offset + length ≤ 0 := hle
      omega
  · exact .ofConfig ⟨2, by decide, rfl⟩ _ _

/-- **Every call that has to do with buffers is well formed.** Take any run of a context that was
opened on a graphics machine: operations with any sizes, offsets and lengths, draws of ranges in
words of 32 bits, any limits of the machine, and any failures. Then

* each write and each copy is of a positive multiple of four bytes, from multiples of four on, and
  lies inside the sizes that its buffers were made with; no copy stays in one buffer;
* each range that is set for vertices or indices is not empty, starts at a multiple of four, and
  lies inside its buffer;
* the end of no draw leaves 32 bits;
* each buffer was made under a number of its own, so that its size is the one it was made with;
* no operation fails for an alignment: neither in the run nor after it. -/
theorem calls_well_formed {config : Config} {ui : UiThread} {script : GpuScript} {init : GpuInit}
    {world : Recorder} {c₀ : GpuContext}
    (hopen : Context.openWith config ui (GpuDevice.factory script init) world = .ok c₀)
    (steps : List (Step MachineAnswers)) (hwords : ∀ op, .perform op ∈ steps → op.InWords) :
    let c := Step.run steps c₀
    let earlier := Step.runEvents steps c₀
    c.device.recorder.log = c₀.device.recorder.log ++ earlier ∧
    AllWellFormed earlier ∧ (earlier.filterMap GpuEvent.made).Nodup ∧
    ∀ op : Op, op.InWords → ∀ fault, (op.apply c).1 = .error fault → fault.IsAlignment = false := by
  intro c earlier
  have hlog : c.device.recorder.log = c₀.device.recorder.log ++ earlier :=
    (Step.run_settled steps (Context.no_encoder_of_open hopen)).log
  have hholds : c.HoldsBuffers c₀.device.recorder.log :=
    Step.run_holdsBuffers steps hwords (Context.holdsBuffers_of_open hopen)
  have ⟨h, hd, _⟩ := hholds
  obtain ⟨events, hevents, hwell, hdistinct, -⟩ := hd.calls
  obtain rfl : earlier = events := List.append_cancel_left (hlog.symm.trans hevents)
  exact ⟨hlog, hwell, hdistinct, fun op hop => (op.holdsAfter hop hholds).aligned⟩

/-- The last two of five bytes, and draws of the widest ranges there are. -/
def widestRun : List (Step MachineAnswers) := [.perform (.createBuffer 0 5 none),
  .perform (.updateBuffer .first 3 (some #[7, 8]) 2), .perform (.bindIndex .first),
  .perform (.drawIndexed Token.triangles 0x7fffffff 0x1403),
  .perform (.draw Token.triangles 0x7fffffff 0x7fffffff)]

/-- The two bytes are widened to eight, across the end of the five, and the draws are recorded. -/
theorem calls_well_formed_widestRun :
    ∃ c : GpuContext,
      Context.openWith {} (.running "main") (GpuDevice.factory {} {}) {} = .ok c ∧
      (∀ op, .perform op ∈ widestRun → op.InWords) ∧
      (Step.runEvents widestRun c).filterMap GpuEvent.made = [1] ∧
      .writeBuffer 1 0 #[0, 0, 0, 7, 8, 0, 0, 0] ∈ Step.runEvents widestRun c ∧
      .draw 0x7fffffff 0xfffffffe 0 1 ∈ Step.runEvents widestRun c ∧
      AllWellFormed (Step.runEvents widestRun c) := by
  have hcalls : (Context.openWith {} (.running "main") (GpuDevice.factory {} {})
      {}).toOption.map (fun c : GpuContext =>
        decide ((Step.runEvents widestRun c).filterMap GpuEvent.made = [1] ∧
          .writeBuffer 1 0 #[0, 0, 0, 7, 8, 0, 0, 0] ∈ Step.runEvents widestRun c ∧
          .draw 0x7fffffff 0xfffffffe 0 1 ∈ Step.runEvents widestRun c)) = some true := by
    decide +kernel
  obtain ⟨c, hopen⟩ : ∃ c : GpuContext,
      Context.openWith {} (.running "main") (GpuDevice.factory {} {}) {} = .ok c := ⟨_, rfl⟩
  have hwords : ∀ op, .perform op ∈ widestRun → op.InWords := by
    simp [widestRun, Op.InWords]
  rw [hopen] at hcalls
  obtain ⟨hmade, hwrite, hdraw⟩ := of_decide_eq_true (Option.some.inj hcalls)
  obtain ⟨-, hwell, -⟩ := calls_well_formed hopen widestRun hwords
  exact ⟨c, hopen, hwords, hmade, hwrite, hdraw, hwell⟩

end RenderBridge
