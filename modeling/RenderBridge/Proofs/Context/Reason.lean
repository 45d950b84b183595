import RenderBridge.Proofs.Buffer.Update
import RenderBridge.Proofs.Context.Unit
import RenderBridge.Proofs.Fault
import RenderBridge.Proofs.Vertex.Layout
/-!
Why operations fail: for a reason of the engine's own, or for the reason of a call that the device
refused.

* `Fault.deviceCause`: the device's reason in a failure, if there is one.
* `Exchange.RefusedFor`: a call that the device refused for a reason.
* `Traced.Explains`: the device's reason in a failure is that of a call that was noted.
* `Op.refused_of_deviceCause`: **the device's reason in the answer of an operation** is that of one
  of its calls.
-/

set_option autoImplicit false

namespace RenderBridge

/-- The device's reason for a failure; none where the reason is the engine's own. -/
def Fault.deviceCause : Fault → Option DeviceCause
  | invalidArgument (.device cause) | openingFailed (.device cause) => some cause
  | compilation _ _ cause => some cause
  | _ => none

lemma Fault.deviceCause_ofDevice (fault : DeviceFault) :
    (ofDevice fault).deviceCause = some fault.cause := by
  rw [ofDevice]
  cases fault.kind <;> rfl

lemma Fault.deviceCause_of_isOwn {cause : Cause} (h : cause.IsOwn) :
    (invalidArgument cause).deviceCause = none := by
  cases cause with
  | device => cases h
  | _ => rfl

variable {δ P D : Type} [Device δ P D]

/-- The device refused the call for this reason. -/
def Exchange.RefusedFor (e : Exchange δ P D) (cause : DeviceCause) : Prop :=
  ∃ fault, (e.request.perform e.before).1 = .error fault ∧ fault.cause = cause

/-- Where a failure is for a reason of the device's, a call was refused for it. -/
def Traced.Explains (t : Traced δ P D) (fault : Fault) : Prop :=
  ∀ cause, fault.deviceCause = some cause → ∃ e ∈ t.exchanges, e.RefusedFor cause

namespace Traced.Explains

variable {t t' : Traced δ P D} {fault : Fault} {reason : DeviceFault}

/-- A reason of the engine's own needs no call. -/
lemma own (h : fault.deviceCause = none) : t.Explains fault := by
  intro cause hcause
  cases h.symm.trans hcause

/-- More calls explain no less. -/
lemma call (h : t.Explains fault) (request : Request P D) : (t.call request).2.Explains fault := by
  intro cause hcause
  obtain ⟨e, he, hrefused⟩ := h cause hcause
  exact ⟨e, List.mem_append_left _ he, hrefused⟩

/-- A call that is refused explains a failure for its reason. -/
lemma of_call (request : Request P D) (h : t.call request = (.error reason, t'))
    (hcause : fault.deviceCause = some reason.cause) : t'.Explains fault := by
  intro cause hsome
  cases hcause.symm.trans hsome
  obtain rfl : (t.call request).2 = t' := congrArg Prod.snd h
  have hanswer : (request.perform t.device).1 = .error reason := congrArg Prod.fst h
  exact ⟨.of request t.device, List.mem_append_right _ (List.mem_singleton.mpr rfl), reason,
    hanswer, rfl⟩

/-- A refused call explains the failure that is made of it. -/
lemma ofDevice (request : Request P D) (h : t.call request = (.error reason, t')) :
    t'.Explains (.ofDevice reason) := of_call request h (Fault.deviceCause_ofDevice reason)

end Traced.Explains

variable {t t' : Traced δ P D} {fault : Fault}

/-! ### Buffers -/

namespace BufferAllocator

variable {a a' : BufferAllocator}

omit [Device δ P D] in
lemma deviceCause_of_find {handle : BufferHandle} (h : a.find handle = .error fault) :
    fault.deviceCause = none := by
  rcases a.find_cases handle with ⟨r, -, hfind⟩ | ⟨-, hfind⟩ <;> cases h.symm.trans hfind
  rfl

lemma writeSlots_explains {bytes : Bytes} {slots : List ℕ} {r : BufferRecord}
    (h : writeSlots bytes slots r t = (.error fault, t')) : t'.Explains fault := by
  induction slots generalizing r t with
  | nil => cases h
  | cons slot rest ih =>
    rw [writeSlots] at h
    dsimp only at h
    split at h
    · exact ih h
    · rename_i hcall
      cases h
      exact .ofDevice (.writeBuffer ..) hcall

omit [Device δ P D] in
lemma deviceCause_of_newShadow {host : HostMemory} {granule total : ℕ}
    (h : newShadow host granule total = .error fault) : fault.deviceCause = none := by
  rw [newShadow] at h
  split at h
  · cases h
  · split at h <;> cases h <;> rfl

lemma fill_explains {host : HostMemory} {r : BufferRecord} {data : Option Bytes}
    (h : fill host r data t = (.error fault, t')) : t'.Explains fault := by
  have hcourse := fill_course host r data t
  rw [h] at hcourse
  cases hcourse with
  | unshadowed hshadow => exact .own (deviceCause_of_newShadow hshadow)
  | written _ _ hwrite => exact writeSlots_explains hwrite

omit [Device δ P D] in
lemma deviceCause_of_checkCreate {usage : BufferUsage} {size : ℤ} {data : Option Bytes}
    {granule : ℕ} (h : checkCreate usage size data granule = .error fault) :
    fault.deviceCause = none := by
  rw [checkCreate] at h
  split_ifs at h
  · cases h
    rfl
  · dsimp only at h
    split_ifs at h <;> cases h <;> rfl

lemma create_explains {usage : BufferUsage} {size : ℤ} {data : Option Bytes} {host : HostMemory}
    (h : a.create usage size data t host = (.error fault, a', t')) : t'.Explains fault := by
  have hcourse := a.create_course usage size data t host
  rw [h] at hcourse
  cases hcourse with
  | refused hcheck => exact .own (deviceCause_of_checkCreate hcheck)
  | unallocated _ hcall => exact .ofDevice (.createBuffer ..) hcall
  | unfilled _ _ hfill => exact (fill_explains hfill).call (.releaseBuffer _)
  | unnumbered => exact .own rfl

end BufferAllocator

lemma StagingRing.reserve_explains {ring ring' : StagingRing} {length : ℕ} {serial : FrameSerial}
    (h : ring.reserve length serial t = (.error fault, ring', t')) : t'.Explains fault := by
  have hcourse := ring.reserve_course length serial t
  rw [h] at hcourse
  cases hcourse with
  | @refused _ settled _ _ _ _ hensure =>
    have hensured := settled.ensureBuffer_course (releaseOutgrown ring settled t)
    rw [hensure] at hensured
    cases hensured with
    | refused _ hcall => exact .ofDevice (.createBuffer ..) hcall

namespace BufferAllocator

variable {a a' : BufferAllocator}

lemma uploadStaged_explains {ring ring' : StagingRing} {buffer : BufferId} {upload : Upload}
    {serial : FrameSerial}
    (h : uploadStaged ring buffer upload serial t = (.error fault, ring', t')) :
    t'.Explains fault := by
  have hcourse := uploadStaged_course ring buffer upload serial t
  rw [h] at hcourse
  cases hcourse with
  | unreserved hreserve => exact StagingRing.reserve_explains hreserve
  | unwritten _ hwrite => exact .ofDevice (.writeBuffer ..) hwrite
  | uncopied _ _ hcopy => exact .ofDevice (.copyBuffer ..) hcopy

omit [Device δ P D] in
lemma deviceCause_of_checkUpdate {handle : BufferHandle} {offset length : ℤ}
    {data : Option Bytes} (h : a.checkUpdate handle offset data length = .error fault) :
    fault.deviceCause = none := by
  rw [checkUpdate] at h
  split at h
  · cases h
    rfl
  · split at h
    · rename_i hfind
      cases h
      exact deviceCause_of_find hfind
    · dsimp only at h
      split_ifs at h
      · cases h
        rfl
      · split at h
        · cases h
          rfl
        · split_ifs at h
          cases h
          rfl

lemma update_explains {handle : BufferHandle} {offset length : ℤ} {data : Option Bytes}
    {serial : FrameSerial}
    (h : a.update handle offset data length serial t = (.error fault, a', t')) :
    t'.Explains fault := by
  have hcourse := a.update_course handle offset data length serial t
  rw [h] at hcourse
  cases hcourse with
  | refused hcheck => exact .own (deviceCause_of_checkUpdate hcheck)
  | unwritten _ _ hwrite => exact .ofDevice (.writeBuffer ..) hwrite
  | staged _ _ hsend => exact uploadStaged_explains hsend

lemma destroy_explains {handle : BufferHandle}
    (h : a.destroy handle t = (.error fault, a', t')) : t'.Explains fault := by
  rw [destroy] at h
  split at h
  · rename_i hfind
    cases h
    exact .own (deviceCause_of_find hfind)
  · cases h

end BufferAllocator

/-! ### Layouts and compiled objects -/

omit [Device δ P D] in
lemma LayoutRegistry.deviceCause_of_find {r : LayoutRegistry} {handle : LayoutHandle}
    (h : r.find handle = .error fault) : fault.deviceCause = none := by
  rw [find] at h
  split at h <;> cases h
  rfl

lemma LayoutRegistry.register_explains {r r' : LayoutRegistry} {stride count : ℤ} {packed : Bytes}
    (h : r.register stride count packed t = (.error fault, r', t')) : t'.Explains fault := by
  rw [register] at h
  split at h
  · rename_i hparse
    cases h
    obtain ⟨cause, rfl, hown⟩ := VertexLayout.parse_error hparse
    exact .own (Fault.deviceCause_of_isOwn hown)
  · split at h
    · rename_i hcall
      cases h
      exact .ofDevice (.createLayout _) hcall
    · dsimp only at h
      rw [issue] at h
      split at h <;> cases h
      exact .own rfl

lemma Cache.pipeline_explains {cache cache' : Cache P D} {key : PipelineKey}
    {layout : Option VertexLayout} (h : cache.pipeline key layout t = (.error fault, cache', t')) :
    t'.Explains fault := by
  rw [pipeline] at h
  split at h
  · cases h
  · split at h
    · cases h
    · rename_i hcall
      cases h
      exact .of_call (.compilePipeline key layout) hcall rfl

lemma Cache.depthStencil_explains {cache cache' : Cache P D} {key : DepthStencilKey}
    (h : cache.depthStencil key t = (.error fault, cache', t')) : t'.Explains fault := by
  rw [depthStencil] at h
  split at h
  · cases h
  · split at h
    · cases h
    · rename_i hcall
      cases h
      exact .of_call (.compileDepthStencil key) hcall rfl

lemma Snapshot.deviceCause_of_check {s : Snapshot} (h : s.check = .error fault) :
    fault.deviceCause = none := by
  rw [check] at h
  split_ifs at h <;> cases h <;> rfl

lemma DrawConfig.resolve_explains {s : Snapshot} {target : DrawTarget}
    {layout : Option VertexLayout} {cache cache' : Cache P D}
    (h : resolve s target layout cache t = (.error fault, cache', t')) : t'.Explains fault := by
  rcases resolve_cases s target layout cache t with
    ⟨fault, hcheck, heq⟩ | ⟨fault, cache₁, t₁, hp, heq⟩ |
      ⟨p, fault, cache₁, t₁, cache₂, t₂, -, hq, heq⟩ | ⟨p, q, cache₁, t₁, cache₂, t₂, -, -, heq⟩
  · cases h.symm.trans heq
    exact .own (Snapshot.deviceCause_of_check hcheck)
  · cases h.symm.trans heq
    exact Cache.pipeline_explains hp
  · cases h.symm.trans heq
    exact Cache.depthStencil_explains hq
  · cases h.symm.trans heq

/-! ### Tokens and settings -/

namespace Token

lemma deviceCause_of_topology {mode : UInt32} (h : topology mode = .error fault) :
    fault.deviceCause = none := by
  rw [topology] at h
  split at h
  · cases h
  · split_ifs at h <;> cases h <;> rfl

lemma deviceCause_of_indexFormat {token : UInt32} (h : indexFormat token = .error fault) :
    fault.deviceCause = none := by
  rw [indexFormat] at h
  split at h <;> cases h
  rfl

lemma deviceCause_of_usage {token : ℤ} (h : BufferUsage.ofToken token = .error fault) :
    fault.deviceCause = none := by
  rw [BufferUsage.ofToken] at h
  split_ifs at h
  cases h
  rfl

end Token

lemma Setting.deviceCause_of_edit {setting : Setting} {s : Snapshot}
    (h : setting.edit s = .error fault) : fault.deviceCause = none := by
  cases setting with
  | viewport x y width height minDepth maxDepth =>
    rw [edit] at h
    split at h
    · cases h
    · rename_i hrange
      cases h
      rw [depthRange] at hrange
      dsimp only at hrange
      split_ifs at hrange <;> cases hrange <;> rfl
  | _ => cases h

/-! ### Operations -/

variable {c c' : Context δ P D}

namespace Context

variable {c c' : Context (Traced δ P D) P D}

lemma resize_explains {width height : ℤ} {scale : Single} {fullscreen : Bool}
    (h : c.resize width height scale fullscreen = (.error fault, c')) :
    c'.device.Explains fault := by
  rw [resize] at h
  split at h
  · cases h
    exact .own rfl
  · dsimp only at h
    split at h
    · rename_i hrun
      cases h
      refine .own ?_
      cases hui : c.ui <;> rw [hui] at hrun <;> cases hrun <;> rfl
    · split at h
      · rename_i hcall
        cases h
        exact .ofDevice (.resizeTargets ..) hcall
      · cases h

/-- A unit fails as its encoding does, or as its submission. -/
lemma submitUnit_explains {encoded : Except DeviceFault Unit}
    (hencoded : ∀ reason, encoded = .error reason → c.device.Explains (.ofDevice reason))
    (h : c.submitUnit encoded = (.error fault, c')) : c'.device.Explains fault := by
  rw [submitUnit, FrameSerial.submit] at h
  rcases hcall : (Device.submit c.device : Except DeviceFault Unit × Traced δ P D) with
    ⟨submitted, t⟩
  have ht : t = (c.device.call .submit).2 := (congrArg Prod.snd hcall).symm
  rw [hcall] at h
  cases encoded with
  | error reason =>
    cases submitted <;>
      · cases h
        rw [ht]
        exact (hencoded reason rfl).call .submit
  | ok _ =>
    cases submitted with
    | error reason =>
      cases h
      exact .ofDevice .submit hcall
    | ok _ => cases h

lemma clear_explains {color : Color} (h : c.clear color = (.error fault, c')) :
    c'.device.Explains fault := by
  refine submitUnit_explains (fun reason hreason => ?_) h
  exact .ofDevice (.clear (clampColor color)) (Prod.ext hreason rfl)

lemma present_explains (h : c.present = (.error fault, c')) : c'.device.Explains fault := by
  rw [present] at h
  split at h
  · cases h
  · rename_i hcall
    cases h
    exact .ofDevice .present hcall

omit [Device δ P D] in
lemma deviceCause_of_drawInputs {c : Context δ P D} {kind : DrawKind}
    (h : c.drawInputs kind = .error fault) : fault.deviceCause = none := by
  have hbinding : ∀ {buffer fault}, c.bindingOf buffer = .error fault →
      fault.deviceCause = none := by
    intro buffer fault hbinding
    cases buffer with
    | none => cases hbinding
    | some handle =>
      rw [bindingOf, BufferAllocator.binding] at hbinding
      rcases c.buffers.find_cases handle with ⟨r, -, hfind⟩ | ⟨-, hfind⟩ <;>
        · rw [hfind] at hbinding
          cases hbinding <;> rfl
  have hcourse := c.drawInputs_course kind
  rw [h] at hcourse
  cases hcourse with
  | unindexed => rfl
  | noVertices hvertex => exact hbinding hvertex
  | noIndices hindex => exact hbinding hindex
  | noLayout hlayout =>
    rw [boundLayout] at hlayout
    split at hlayout
    · cases hlayout
    · split at hlayout
      · cases hlayout
      · rename_i hfind
        cases hlayout
        exact LayoutRegistry.deviceCause_of_find hfind

lemma drawUnit_explains {topology : Topology} {kind : DrawKind}
    (h : c.drawUnit topology kind = (.error fault, c')) : c'.device.Explains fault := by
  rcases c.drawUnit_cases topology kind with ⟨fault', hinputs, hcall⟩ |
      ⟨inputs, fault', cache, t, -, hresolve, hcall⟩ | ⟨inputs, config, cache, t, -, -, hcall⟩
  · cases h.symm.trans hcall
    exact .own (deviceCause_of_drawInputs hinputs)
  · cases h.symm.trans hcall
    exact DrawConfig.resolve_explains hresolve
  · rw [hcall] at h
    refine submitUnit_explains (fun reason hreason => ?_) h
    exact .ofDevice (.encodeDraw config ⟨kind, inputs.vertex, inputs.index⟩)
      (Prod.ext hreason rfl)

lemma set_explains {setting : Setting} (h : c.set setting = (.error fault, c')) :
    c'.device.Explains fault := by
  have hset := congrArg Prod.fst h
  rw [set, Tracker.apply] at hset
  dsimp only at hset
  split at hset
  · cases hset
  · rename_i hedit
    cases hset
    exact .own (Setting.deviceCause_of_edit hedit)

lemma createBuffer_explains {usage size : ℤ} {data : Option Bytes}
    (h : c.createBuffer usage size data = (.error fault, c')) : c'.device.Explains fault := by
  rw [createBuffer] at h
  split at h
  · rename_i husage
    cases h
    exact .own (Token.deviceCause_of_usage husage)
  · rename_i use _
    rcases hcall : c.buffers.create use size data c.device c.host with ⟨answer, a, t⟩
    rw [hcall] at h
    cases h
    exact BufferAllocator.create_explains hcall

lemma updateBuffer_explains {buffer : BufferHandle} {offset length : ℤ} {data : Option Bytes}
    (h : c.updateBuffer buffer offset data length = (.error fault, c')) :
    c'.device.Explains fault := by
  rcases hcall : c.buffers.update buffer offset data length c.serial c.device with ⟨answer, a, t⟩
  rw [updateBuffer, hcall] at h
  cases h
  exact BufferAllocator.update_explains hcall

lemma destroyBuffer_explains {buffer : BufferHandle}
    (h : c.destroyBuffer buffer = (.error fault, c')) : c'.device.Explains fault := by
  rw [destroyBuffer] at h
  split at h
  · rename_i hcall
    cases h
    exact BufferAllocator.destroy_explains hcall
  · cases h

lemma registerLayout_explains {stride count : ℤ} {packed : Bytes}
    (h : c.registerLayout stride count packed = (.error fault, c')) :
    c'.device.Explains fault := by
  rcases hcall : c.layouts.register stride count packed c.device with ⟨answer, r, t⟩
  rw [registerLayout, hcall] at h
  cases h
  exact LayoutRegistry.register_explains hcall

lemma bindVertex_explains {buffer : BufferHandle} {layout : LayoutHandle}
    (h : c.bindVertex buffer layout = (.error fault, c')) : c'.device.Explains fault := by
  rw [bindVertex] at h
  split at h
  · rename_i hfind
    cases h
    exact .own (BufferAllocator.deviceCause_of_find hfind)
  · split at h
    · rename_i hfind
      cases h
      exact .own (LayoutRegistry.deviceCause_of_find hfind)
    · cases h

lemma bindIndex_explains {buffer : BufferHandle} (h : c.bindIndex buffer = (.error fault, c')) :
    c'.device.Explains fault := by
  rw [bindIndex] at h
  split at h
  · rename_i hfind
    cases h
    exact .own (BufferAllocator.deviceCause_of_find hfind)
  · cases h

lemma draw_explains {mode : UInt32} {first count : ℤ}
    (h : c.draw mode first count = (.error fault, c')) : c'.device.Explains fault := by
  rw [draw] at h
  split at h
  · rename_i hmode
    cases h
    exact .own (Token.deviceCause_of_topology hmode)
  · split_ifs at h
    · cases h
      exact .own rfl
    · cases h
    · exact drawUnit_explains h

lemma drawIndexed_explains {mode : UInt32} {count : ℤ} {indexType : UInt32}
    (h : c.drawIndexed mode count indexType = (.error fault, c')) : c'.device.Explains fault := by
  rw [drawIndexed] at h
  split at h
  · rename_i hmode
    cases h
    exact .own (Token.deviceCause_of_topology hmode)
  · split at h
    · rename_i hformat
      cases h
      exact .own (Token.deviceCause_of_indexFormat hformat)
    · split_ifs at h
      · cases h
        exact .own rfl
      · cases h
      · exact drawUnit_explains h

end Context

namespace Op

omit [Device δ P D] in
lemma eq_of_replyWith {α : Type} {reply : α → Reply} {out : Except Fault α × Context δ P D}
    (h : replyWith reply out = (.error fault, c')) : out = (.error fault, c') := by
  rcases out with ⟨_ | value, c⟩ <;> cases h
  rfl

/-- A failed operation on a traced device is explained by its calls. -/
theorem apply_explains (op : Op) {c c' : Context (Traced δ P D) P D}
    (h : op.apply c = (.error fault, c')) : c'.device.Explains fault := by
  cases op with
  | set setting => exact Context.set_explains (eq_of_replyWith h)
  | resize width height scale fullscreen => exact Context.resize_explains (eq_of_replyWith h)
  | clear color => exact Context.clear_explains (eq_of_replyWith h)
  | present => exact Context.present_explains (eq_of_replyWith h)
  | createBuffer usage size data => exact Context.createBuffer_explains (eq_of_replyWith h)
  | updateBuffer buffer offset data length =>
    exact Context.updateBuffer_explains (eq_of_replyWith h)
  | destroyBuffer buffer => exact Context.destroyBuffer_explains (eq_of_replyWith h)
  | registerLayout stride count packed =>
    exact Context.registerLayout_explains (eq_of_replyWith h)
  | bindVertex buffer layout => exact Context.bindVertex_explains (eq_of_replyWith h)
  | bindIndex buffer => exact Context.bindIndex_explains (eq_of_replyWith h)
  | draw mode first count => exact Context.draw_explains (eq_of_replyWith h)
  | drawIndexed mode count indexType => exact Context.drawIndexed_explains (eq_of_replyWith h)

/-- The device's reason in the answer of an operation is that of one of its calls. -/
theorem refused_of_deviceCause (op : Op) (c : Context δ P D) {cause : DeviceCause}
    (h : (op.apply c).1 = .error fault) (hcause : fault.deviceCause = some cause) :
    ∃ e ∈ op.exchanges c, e.RefusedFor cause := by
  have htraced := op.apply_traced c []
  rw [h, List.nil_append] at htraced
  exact op.apply_explains htraced cause hcause

end Op

end RenderBridge
