import RenderBridge.Proofs.Buffer.Contract
import RenderBridge.Proofs.Gpu.Encode
/-!
The buffers of a graphics machine, read off the calls on it.

* `GpuEvent.WellFormed`: a write, a copy, a bound range or a draw that the machine takes well.
* `GpuDevice.Holds`: the buffers that were made on a machine in some calls, all of which were well
  formed.
* `GpuDevice.contract`: a graphics device **promises what the buffers of a context ask for**.
* `GpuDevice.apart_perform`, `holds_encodeDraw`: calls that have nothing to do with memory keep all
  this; a draw does where what it reads lies inside the buffers (`DrawCall.ReadsInside`).
-/

set_option autoImplicit false

namespace RenderBridge

/-! ### Calls on the machine -/

namespace GpuEvent

/-- A call that has to do with buffers, or draws. -/
def UsesBuffers : GpuEvent → Bool
  | createBuffer .. | writeBuffer .. | copy .. | setVertexBuffer .. | setIndexBuffer .. | draw ..
  | drawIndexed .. => true
  | _ => false

/-- The buffer that a call makes. -/
def made : GpuEvent → Option ℕ
  | createBuffer number .. => some number
  | _ => none

/-- A call that the machine takes well, where `inside` says which ranges lie inside a buffer. Writes
and copies are made in multiples of four bytes, and not of nothing; a copy has two different
buffers. A range that draws read is not empty and starts at a multiple of four. The end of what is
drawn does not leave 32 bits. -/
def WellFormed (inside : BufferId → ℕ → ℕ → Prop) : GpuEvent → Prop
  | writeBuffer buffer offset bytes =>
      4 ∣ offset ∧ 4 ∣ bytes.size ∧ 0 < bytes.size ∧ inside buffer offset bytes.size
  | copy _ source sourceOffset target targetOffset length =>
      source ≠ target ∧ 4 ∣ sourceOffset ∧ 4 ∣ targetOffset ∧ 4 ∣ length ∧ 0 < length ∧
        inside source sourceOffset length ∧ inside target targetOffset length
  | setVertexBuffer _ buffer offset size | setIndexBuffer buffer _ offset size =>
      4 ∣ offset ∧ 0 < size ∧ inside buffer offset size
  | draw _ stop _ _ | drawIndexed _ stop _ _ _ => stop < 2 ^ 32
  | _ => True

lemma WellFormed.mono {inside inside' : BufferId → ℕ → ℕ → Prop} {e : GpuEvent}
    (h : e.WellFormed inside)
    (hinside : ∀ buffer offset length, inside buffer offset length → inside' buffer offset length) :
    e.WellFormed inside' := by
  cases e with
  | writeBuffer => exact ⟨h.1, h.2.1, h.2.2.1, hinside _ _ _ h.2.2.2⟩
  | copy =>
    obtain ⟨hne, hsource, htarget, hlength, hpos, hin, hin'⟩ := h
    exact ⟨hne, hsource, htarget, hlength, hpos, hinside _ _ _ hin, hinside _ _ _ hin'⟩
  | setVertexBuffer => exact ⟨h.1, h.2.1, hinside _ _ _ h.2.2⟩
  | setIndexBuffer => exact ⟨h.1, h.2.1, hinside _ _ _ h.2.2⟩
  | draw => exact h
  | drawIndexed => exact h
  | _ => trivial

lemma wellFormed_of_not_usesBuffers {inside : BufferId → ℕ → ℕ → Prop} {e : GpuEvent}
    (h : e.UsesBuffers = false) : e.WellFormed inside ∧ e.made = none := by
  cases e with
  | createBuffer => cases h
  | writeBuffer => cases h
  | copy => cases h
  | setVertexBuffer => cases h
  | setIndexBuffer => cases h
  | draw => cases h
  | drawIndexed => cases h
  | _ => exact ⟨trivial, rfl⟩

end GpuEvent

/-- A range that lies inside a buffer that was made, with the size it was made with. -/
def InsideMade (events : List GpuEvent) (buffer : BufferId) (offset length : ℕ) : Prop :=
  ∃ label size usage mapped,
    .createBuffer buffer label size usage mapped ∈ events ∧ offset + length ≤ size

/-- Every call is well formed, for the buffers made before it. -/
def AllWellFormed (events : List GpuEvent) : Prop :=
  ∀ before e after, events = before ++ e :: after → e.WellFormed (InsideMade before)

lemma AllWellFormed.append {events events' : List GpuEvent} (h : AllWellFormed events)
    (h' : ∀ e ∈ events', e.WellFormed (InsideMade events)) : AllWellFormed (events ++ events') := by
  intro before e after heq
  rcases append_eq_append_cons heq with ⟨middle, hsplit, -⟩ | ⟨middle, rfl, rfl⟩
  · exact h before e middle hsplit
  · refine (h' e (List.mem_append_right _ List.mem_cons_self)).mono ?_
    rintro buffer offset length ⟨label, size, usage, mapped, hmem, hle⟩
    exact ⟨label, size, usage, mapped, List.mem_append_left _ hmem, hle⟩

/-! ### What was made -/

/-- A range of some bytes inside a buffer. -/
def Heap.Inside (h : Heap) (buffer : BufferId) (offset length : ℕ) : Prop :=
  0 < length ∧ offset + length ≤ (h.contents buffer).size

namespace GpuDevice

/-- The buffers of `h` were made on the machine since `start`, each under a number of its own, and
every call was well formed. -/
structure Holds (start : List GpuEvent) (h : Heap) (d : GpuDevice) : Prop where
  alignment : h.alignment = copyAlignment
  created : h.created = d.recorder.buffers
  calls : ∃ events, d.recorder.log = start ++ events ∧ AllWellFormed events ∧
    (events.filterMap GpuEvent.made).Nodup ∧
    (∀ number ∈ events.filterMap GpuEvent.made, number ≤ h.created) ∧
    ∀ buffer offset length, h.Inside buffer offset length → InsideMade events buffer offset length

namespace Holds

variable {start events : List GpuEvent} {h : Heap} {d d' : GpuDevice}

lemma granule (hd : Holds start h d) : h.granule = 4 := by
  rw [Heap.granule, hd.alignment]
  rfl

/-- Well-formed calls that make no buffer. -/
lemma of_log (hd : Holds start h d) (hlog : d'.recorder.log = d.recorder.log ++ events)
    (hbuffers : d'.recorder.buffers = d.recorder.buffers)
    (hevents : ∀ e ∈ events, e.WellFormed h.Inside ∧ e.made = none) : Holds start h d' where
  alignment := hd.alignment
  created := hd.created.trans hbuffers.symm
  calls := by
    obtain ⟨earlier, hearlier, hwell, hdistinct, hle, hinside⟩ := hd.calls
    have hmade : (earlier ++ events).filterMap GpuEvent.made = earlier.filterMap GpuEvent.made := by
      rw [List.filterMap_append, List.filterMap_eq_nil_iff.mpr fun e he => (hevents e he).2,
        List.append_nil]
    refine ⟨earlier ++ events, by rw [hlog, hearlier, List.append_assoc], ?_, ?_, ?_, ?_⟩
    · exact hwell.append fun e he => (hevents e he).1.mono hinside
    · rw [hmade]
      exact hdistinct
    · rw [hmade]
      exact hle
    · intro buffer offset length hin
      obtain ⟨label, size, usage, mapped, hmem, hle⟩ := hinside buffer offset length hin
      exact ⟨label, size, usage, mapped, List.mem_append_left _ hmem, hle⟩

lemma emit (hd : Holds start h d)
    (hevents : ∀ e ∈ events, e.WellFormed h.Inside ∧ e.made = none) :
    Holds start h (d.emit events) := hd.of_log rfl rfl hevents

/-- A new buffer has a number of its own. -/
lemma create (hd : Holds start h d) (size : ℕ) (label : Option String) :
    Holds start (h.allocate size)
      { d with recorder := (d.recorder.createBuffer label size).2 } where
  alignment := hd.alignment
  created := congrArg (· + 1) hd.created
  calls := by
    obtain ⟨earlier, hearlier, hwell, hdistinct, hle, hinside⟩ := hd.calls
    refine ⟨earlier ++ [.createBuffer (d.recorder.buffers + 1) label size Recorder.bufferUsage
      false], ?_, ?_, ?_, ?_, ?_⟩
    · rw [← List.append_assoc, ← hearlier]
      rfl
    · exact hwell.append (List.forall_mem_singleton.mpr trivial)
    · rw [List.filterMap_append]
      refine hdistinct.append (List.nodup_singleton _) fun number hold hnew => ?_
      have hle := hle number hold
      rw [List.mem_singleton.mp hnew, hd.created] at hle
      exact absurd hle (Nat.not_succ_le_self _)
    · rw [List.filterMap_append]
      refine List.forall_mem_append.mpr ⟨fun number hold => (hle number hold).trans ?_,
        List.forall_mem_singleton.mpr ?_⟩
      · exact Nat.le_succ _
      · exact (congrArg (· + 1) hd.created).ge
    · rintro buffer offset length ⟨hpos, hin⟩
      rw [Heap.contents_allocate] at hin
      split at hin
      · rename_i heq
        rw [Bytes.size_zeros] at hin
        refine ⟨label, size, Recorder.bufferUsage, false, List.mem_append_right _ ?_, hin⟩
        rw [heq, hd.created]
        exact List.mem_singleton.mpr rfl
      · obtain ⟨label, size, usage, mapped, hmem, hle⟩ :=
          hinside buffer offset length ⟨hpos, hin⟩
        exact ⟨label, size, usage, mapped, List.mem_append_left _ hmem, hle⟩

end Holds

/-! ### Memory -/

lemma checkAligned_ok {offset length : ℕ} (hoffset : 4 ∣ offset) (hlength : 4 ∣ length) :
    checkAligned offset length = .ok () := by
  rw [checkAligned, copyAlignment, if_neg]
  omega

/-- A graphics device does what it is asked for, as long as that is well formed. -/
theorem contract (start : List GpuEvent) : MemoryContract (Holds start) where
  granule {h d} hd := by
    rw [hd.granule]
    rfl
  coarse {h d} hd := by
    rw [hd.granule]
    decide
  create {h d} size label hd := by
    change (∃ d', createBuffer size label d = _ ∧ _) ∨ ∃ fault d', createBuffer size label d = _ ∧ _
    rw [createBuffer]
    dsimp only
    split
    · exact .inr ⟨_, d, rfl, hd, rfl⟩
    · rw [hd.created]
      exact .inl ⟨_, rfl, hd.create size label⟩
  release id hd := hd
  write {h d id offset bytes} hd hfits hpos := by
    have hoffset := hd.granule ▸ hfits.offset_dvd
    have hlength := hd.granule ▸ hfits.length_dvd
    change ∃ answer d', writeBuffer id offset bytes d = _ ∧ _
    rw [writeBuffer, checkAligned_ok hoffset hlength]
    refine ⟨_, _, rfl, hd.emit (List.forall_mem_singleton.mpr ⟨?_, rfl⟩), fun fault heq => ?_⟩
    · exact ⟨hoffset, hlength, hpos, hpos, hfits.inside⟩
    · cases heq
  copy {h d source sourceOffset target targetOffset length} hd hsource htarget hpos hne := by
    have hlength := hd.granule ▸ hsource.length_dvd
    have hsourceOffset := hd.granule ▸ hsource.offset_dvd
    have htargetOffset := hd.granule ▸ htarget.offset_dvd
    change ∃ answer d', copyBuffer source sourceOffset target targetOffset length d = _ ∧ _
    rw [copyBuffer, checkAligned_ok hsourceOffset hlength, checkAligned_ok htargetOffset hlength]
    refine ⟨_, _, rfl, ?_, fun fault heq => ?_⟩
    · have hencoder : Holds start h
          { d with recorder := (d.recorder.createEncoder (d.label "kiln upload encoder")).2 } :=
        hd.of_log rfl rfl (List.forall_mem_singleton.mpr ⟨trivial, rfl⟩)
      refine hencoder.emit ?_
      simp only [List.forall_mem_cons, List.not_mem_nil, false_implies, implies_true, and_true]
      exact ⟨⟨⟨hne, hsourceOffset, htargetOffset, hlength, hpos, ⟨hpos, hsource.inside⟩,
        hpos, htarget.inside⟩, rfl⟩, ⟨trivial, rfl⟩, trivial, rfl⟩
    · cases heq

/-! ### Other calls -/

/-- A call that has nothing to do with buffers, and that is not refused for an alignment. -/
structure Apart {α : Type} (d : GpuDevice) (out : Except DeviceFault α × GpuDevice) : Prop where
  buffers : out.2.recorder.buffers = d.recorder.buffers
  log : ∃ events, out.2.recorder.log = d.recorder.log ++ events ∧
    ∀ e ∈ events, e.UsesBuffers = false
  aligned : ∀ fault, out.1 = .error fault → fault.cause.IsAlignment = false

namespace Apart

variable {α β : Type} {d d' d'' : GpuDevice} {answer : Except DeviceFault α}

lemma ok {value : α} {events : List GpuEvent}
    (hlog : d'.recorder.log = d.recorder.log ++ events)
    (hbuffers : d'.recorder.buffers = d.recorder.buffers)
    (hevents : events.all (!·.UsesBuffers) = true) :
    Apart d ((.ok value : Except DeviceFault α), d') where
  buffers := hbuffers
  log := ⟨events, hlog, fun e he => by simpa using List.all_eq_true.mp hevents e he⟩
  aligned fault heq := by cases heq

lemma refl (d : GpuDevice) {value : α} : Apart d ((.ok value : Except DeviceFault α), d) :=
  ok (List.append_nil _).symm rfl rfl

/-- A failure without further calls. -/
lemma error {fault : DeviceFault} (h : Apart d ((.ok () : Except DeviceFault Unit), d'))
    (hfault : fault.cause.IsAlignment = false) :
    Apart d ((.error fault : Except DeviceFault α), d') where
  buffers := h.buffers
  log := h.log
  aligned fault' heq := by
    cases heq
    exact hfault

/-- A refusal at once. -/
lemma refused {fault : DeviceFault} (hfault : fault.cause.IsAlignment = false) :
    Apart d ((.error fault : Except DeviceFault α), d) := (refl d).error hfault

/-- A failure is passed on. -/
lemma pass {fault : DeviceFault} (h : Apart d ((.error fault : Except DeviceFault α), d')) :
    Apart d ((.error fault : Except DeviceFault β), d') where
  buffers := h.buffers
  log := h.log
  aligned fault' heq := by
    cases heq
    exact h.aligned fault rfl

lemma trans {out : Except DeviceFault β × GpuDevice} (h : Apart d (answer, d'))
    (h' : Apart d' out) : Apart d out where
  buffers := h'.buffers.trans h.buffers
  log := by
    obtain ⟨events, hlog, hevents⟩ := h.log
    obtain ⟨events', hlog', hevents'⟩ := h'.log
    exact ⟨events ++ events', by rw [hlog', hlog, List.append_assoc],
      List.forall_mem_append.mpr ⟨hevents, hevents'⟩⟩
  aligned := h'.aligned

lemma holds {start : List GpuEvent} {h : Heap} {out : Except DeviceFault α × GpuDevice}
    (hd : Holds start h d) (ha : Apart d out) : Holds start h out.2 := by
  obtain ⟨events, hlog, hevents⟩ := ha.log
  exact hd.of_log hlog ha.buffers fun e he =>
    GpuEvent.wellFormed_of_not_usesBuffers (hevents e he)

end Apart

variable {d : GpuDevice}

lemma apart_realize (p : GpuPipeline) (q : GpuDepthStencil) (d : GpuDevice) :
    Apart d (realize p q d) := by
  rw [realize, Recorder.createPipeline]
  split
  · exact .refl d
  · dsimp only
    cases d.recorder.script.pipelineErrors.headD none with
    | none => exact .ok rfl rfl rfl
    | some reason => exact .error (.ok rfl rfl rfl) rfl

lemma templateOf_aligned {key : PipelineKey} {layout : Option VertexLayout} {fault : DeviceFault}
    (h : PipelineTemplate.of key layout = .error fault) : fault.cause.IsAlignment = false := by
  rw [PipelineTemplate.of.eq_def] at h
  split at h
  · cases h
  · split at h
    · cases h
    · rename_i hcheck
      cases h
      rw [PipelineTemplate.checkPosition] at hcheck
      split at hcheck
      · split_ifs at hcheck
        cases hcheck
        rfl
      · cases hcheck
        rfl

lemma apart_compilePipeline (key : PipelineKey) (layout : Option VertexLayout) (d : GpuDevice) :
    Apart d (compilePipeline key layout d) := by
  rw [compilePipeline]
  split
  · exact .refused rfl
  · split
    · rename_i htemplate
      exact .refused (templateOf_aligned htemplate)
    · rename_i template _
      have hcounted : Apart d ((.ok () : Except DeviceFault Unit),
          { d with templates := d.templates + 1 }) := .ok (List.append_nil _).symm rfl rfl
      have hrealize := hcounted.trans (apart_realize ⟨d.templates + 1, template⟩
        defaultDepthStencil { d with templates := d.templates + 1 })
      dsimp only
      split
      · rename_i hcall
        rw [hcall] at hrealize
        exact hrealize.trans (.refl _)
      · rename_i hcall
        rw [hcall] at hrealize
        exact hrealize.pass

lemma apart_configureSurface (d : GpuDevice) :
    Apart d ((.ok () : Except DeviceFault Unit), d.configureSurface) := .ok rfl rfl rfl

lemma apart_applyGeometry (geometry : SurfaceGeometry) (d : GpuDevice) :
    Apart d ((.ok () : Except DeviceFault Unit), d.applyGeometry geometry) := by
  rw [applyGeometry]
  split
  · exact .refl d
  · exact .ok rfl rfl rfl

lemma apart_dropFrame (d : GpuDevice) :
    Apart d ((.ok () : Except DeviceFault Unit), d.dropFrame) := by
  rw [dropFrame]
  split
  · exact .ok rfl rfl rfl
  · exact .refl d

lemma apart_acquire (d : GpuDevice) : Apart d d.acquire := by
  have hasked : Apart d ((.ok () : Except DeviceFault Unit),
      { d with recorder := d.recorder.acquire.2 }) := by
    rw [Recorder.acquire]
    dsimp only
    split <;> exact .ok rfl rfl rfl
  rw [acquire]
  split
  · exact .refused rfl
  · split
    · rename_i hcall
      rw [hcall] at hasked
      exact hasked.trans (.ok rfl rfl rfl)
    · rename_i hcall
      rw [hcall] at hasked
      exact (hasked.trans (apart_configureSurface _)).error rfl
    · rename_i hcall
      rw [hcall] at hasked
      exact (hasked.trans (apart_configureSurface _)).error rfl
    · rename_i hcall
      rw [hcall] at hasked
      exact hasked.error rfl

lemma apart_resizeTargets (width height : ℕ) (d : GpuDevice) :
    Apart d (resizeTargets width height d) := by
  have hsampled : ∀ d : GpuDevice,
      Apart d ((.ok () : Except DeviceFault Unit), (createSampledView width height d).2) := by
    intro d
    rw [createSampledView]
    split
    · exact .ok (List.append_assoc ..) rfl rfl
    · exact .refl d
  rw [resizeTargets]
  split
  · exact .refused rfl
  · have hdepth : Apart d ((.ok () : Except DeviceFault Unit), { d.dropFrame with
        recorder := (d.dropFrame.recorder.createTexture (d.dropFrame.label "kiln depth-stencil")
          width height d.dropFrame.sampleCount depthStencilFormat).2 }) :=
      (apart_dropFrame d).trans (.ok rfl rfl rfl)
    exact (hdepth.trans (hsampled _)).trans (.ok rfl rfl rfl)

lemma apart_ensureEncoder (d : GpuDevice) :
    Apart d ((.ok () : Except DeviceFault Unit), d.ensureEncoder.2) := by
  rw [ensureEncoder]
  split
  · exact .refl d
  · exact .ok rfl rfl rfl

lemma apart_ensureFrame (d : GpuDevice) : Apart d d.ensureFrame := by
  have hacquire := d.apart_acquire
  rw [ensureFrame]
  split
  · exact d.apart_ensureEncoder.trans (.refl _)
  · split
    · rename_i hcall
      rw [hcall] at hacquire
      exact hacquire.pass
    · rename_i hcall
      rw [hcall] at hacquire
      exact hacquire.trans ((apart_ensureEncoder _).trans (.refl _))

lemma apart_beginPass (color : Option Color) (d : GpuDevice) : Apart d (d.beginPass color) := by
  have hframe := d.apart_ensureFrame
  rw [beginPass]
  split
  · rename_i hcall
    rw [hcall] at hframe
    exact hframe.pass
  · rename_i hcall
    rw [hcall] at hframe
    dsimp only
    split
    · exact (hframe.trans (.refl _)).error rfl
    · exact hframe.trans (.ok rfl rfl rfl)

lemma apart_submit (d : GpuDevice) : Apart d ((.ok () : Except DeviceFault Unit), d.submit) := by
  rw [submit]
  split <;> exact .ok rfl rfl rfl

lemma apart_present (d : GpuDevice) : Apart d ((.ok () : Except DeviceFault Unit), d.present) := by
  rw [present]
  split
  · exact .ok rfl rfl rfl
  · exact .refl d

/-- Every call but those that have to do with memory and draws leaves the buffers alone. -/
theorem apart_perform (request : Call) (hkind : request.kind ∉ [.memory, .drawing])
    (d : GpuDevice) : Apart d (request.perform d) := by
  cases request with
  | compilePipeline key layout => exact apart_compilePipeline key layout d
  | compileDepthStencil key => exact .refl d
  | createLayout layout =>
    change Apart d (createLayout layout d)
    rw [createLayout]
    split
    · exact .refused rfl
    · exact .refl d
  | applyGeometry geometry thread => exact apart_applyGeometry geometry d
  | detachSurface thread => exact .ok (List.append_nil _).symm rfl rfl
  | resizeTargets width height => exact apart_resizeTargets width height d
  | clear color => exact apart_beginPass (some color) d
  | submit => exact apart_submit d
  | present => exact apart_present d
  | _ => simp [Request.kind] at hkind

/-! ### Draws -/

end GpuDevice

/-- What a draw reads lies inside the buffers, and what it draws ends within 32 bits. -/
structure DrawCall.ReadsInside (h : Heap) (call : DrawCall) : Prop where
  vertex : ∀ b, call.vertex = some b →
    4 ∣ b.offset ∧ 0 < b.size ∧ h.Inside b.buffer b.offset b.size
  index : ∀ b, call.index = some b →
    4 ∣ b.offset ∧ 0 < b.size ∧ h.Inside b.buffer b.offset b.size
  vertices : ∀ first count, call.kind = .vertices first count → first + count < 2 ^ 32
  indices : ∀ count format, call.kind = .indexed count format → count < 2 ^ 32

namespace GpuDevice

variable {h : Heap} {call : DrawCall}

lemma callEvents_wellFormed (hcall : call.ReadsInside h) {events : List GpuEvent}
    (hevents : callEvents call = .ok events) :
    ∀ e ∈ events, e.WellFormed h.Inside ∧ e.made = none := by
  rw [callEvents] at hevents
  split at hevents
  · rename_i first count hkind
    cases hevents
    exact List.forall_mem_singleton.mpr ⟨hcall.vertices _ _ hkind, rfl⟩
  · rename_i count format b hkind hindex
    cases hevents
    exact List.forall_mem_cons.mpr ⟨⟨hcall.index b hindex, rfl⟩,
      List.forall_mem_singleton.mpr ⟨hcall.indices _ _ hkind, rfl⟩⟩
  · cases hevents

lemma drawEvents_wellFormed {P D : Type} (hcall : call.ReadsInside h) (config : DrawConfig P D)
    (targets : FrameTargets) (maxDimension : ℕ) :
    (∀ e ∈ (drawEvents config call targets maxDimension).2,
        e.WellFormed h.Inside ∧ e.made = none) ∧
      ∀ fault, (drawEvents config call targets maxDimension).1 = .error fault →
        fault.cause.IsAlignment = false := by
  have hstate : ∀ rect : ViewportRect,
      ∀ e ∈ GpuEvent.setViewport rect ::
          (config.stencilReference.map GpuEvent.setStencilReference).toList ++
        (call.vertex.map fun b => GpuEvent.setVertexBuffer 0 b.buffer b.offset b.size).toList,
        e.WellFormed h.Inside ∧ e.made = none := by
    intro rect
    rw [List.cons_append]
    refine List.forall_mem_cons.mpr ⟨⟨trivial, rfl⟩, List.forall_mem_append.mpr ⟨?_, ?_⟩⟩
    · cases config.stencilReference with
      | none => exact List.forall_mem_nil _
      | some reference => exact List.forall_mem_singleton.mpr ⟨trivial, rfl⟩
    · cases hvertex : call.vertex with
      | none => exact List.forall_mem_nil _
      | some b => exact List.forall_mem_singleton.mpr ⟨hcall.vertex b hvertex, rfl⟩
  rw [drawEvents]
  dsimp only
  split
  · refine ⟨List.forall_mem_nil _, fun fault heq => ?_⟩
    cases heq
    rfl
  · cases hevents : callEvents call with
    | ok events =>
      refine ⟨List.forall_mem_append.mpr ⟨hstate _, callEvents_wellFormed hcall hevents⟩,
        fun fault heq => ?_⟩
      cases heq
    | error fault =>
      refine ⟨hstate _, fun fault' heq => ?_⟩
      cases heq
      rw [callEvents] at hevents
      split at hevents <;> cases hevents
      rfl

lemma scissorEvents_usesBuffers {scissor : Option ScissorRect} {targets : FrameTargets}
    {events : List GpuEvent} (h : scissorEvents scissor targets = some events) :
    ∀ e ∈ events, e.UsesBuffers = false := by
  cases scissor with
  | none =>
    cases h
    exact List.forall_mem_nil _
  | some r =>
    obtain ⟨clipped, -, rfl⟩ := Option.map_eq_some_iff.mp h
    exact List.forall_mem_singleton.mpr rfl

/-- A draw that reads inside the buffers is recorded in well-formed calls, and is not refused for
an alignment. -/
theorem holds_encodeDraw {start : List GpuEvent} {d : GpuDevice} (hd : Holds start h d)
    (hcall : call.ReadsInside h) (config : DrawConfig GpuPipeline GpuDepthStencil) :
    Holds start h (encodeDraw config call d).2 ∧
      ∀ fault, (encodeDraw config call d).1 = .error fault → fault.cause.IsAlignment = false := by
  have hapart : ∀ {out : Except DeviceFault Unit × GpuDevice}, Apart d out →
      Holds start h out.2 ∧ ∀ fault, out.1 = .error fault → fault.cause.IsAlignment = false :=
    fun ha => ⟨ha.holds hd, ha.aligned⟩
  rw [encodeDraw]
  split
  · exact hapart (.refused rfl)
  · split
    · exact hapart (.refused rfl)
    · rename_i targets _
      have hrealize := apart_realize config.pipeline config.depthStencil d
      rcases hcall' : realize config.pipeline config.depthStencil d with ⟨answer, d₁⟩
      rw [hcall'] at hrealize
      cases answer with
      | error fault => exact hapart hrealize.pass
      | ok pipeline =>
        have hpass := hrealize.trans (apart_beginPass none d₁)
        dsimp only
        rw [encodePass]
        rcases hbegin : d₁.beginPass none with ⟨answer, d₂⟩
        rw [hbegin] at hpass
        cases answer with
        | error fault => exact hapart hpass
        | ok _ =>
          have hset : Apart d
              ((.ok () : Except DeviceFault Unit), d₂.emit [.setPipeline pipeline]) :=
            hpass.trans (.ok rfl rfl rfl)
          dsimp only
          cases hscissor : scissorEvents config.scissor targets with
          | none => exact hapart hset
          | some scissor =>
            obtain ⟨hevents, haligned⟩ := drawEvents_wellFormed hcall config targets
              (d₂.emit [.setPipeline pipeline]).recorder.script.maxDimension
            refine ⟨(hset.holds hd).emit (List.forall_mem_append.mpr ⟨fun e he => ?_, hevents⟩),
              haligned⟩
            exact GpuEvent.wellFormed_of_not_usesBuffers (scissorEvents_usesBuffers hscissor e he)

end GpuDevice

end RenderBridge
