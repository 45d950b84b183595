import RenderBridge.Proofs.Context.Unit
import RenderBridge.Proofs.Gpu.Surface
import RenderBridge.Proofs.Gpu.Texture
/-!
What the calls to a graphics device record, and hand over.

* `unsubmitted`: the encoders that were made and not handed over after some calls on the machine.
* `GpuDevice.Calls`: what was called between two states of a device, with the textures of the
  surface treated as they must be; `GpuDevice.Settled` and `Idle`: no encoder is left over, and no
  commands are recorded at all.
* `GpuDevice.settled_perform`: **every call but a clear, a draw and a submission** is settled.
* `PassCalls`, `UnitCalls`: the calls of at most one pass, and of one submission of at most one
  command buffer.
* `GpuDevice.encoding_clear`, `encoding_draw`, `Encoding.submit`: **a clear or a draw records at
  most one pass with at most one draw call**, and the submission after it hands the encoder over.
-/

set_option autoImplicit false

namespace RenderBridge

/-! ### Calls on the machine -/

namespace GpuEvent

/-- A call that records commands or hands them over. -/
def IsCommand : GpuEvent → Bool
  | createEncoder .. | copy .. | finish _ | submit _ | beginPass .. | setPipeline _ | setScissor ..
  | setViewport _ | setStencilReference _ | setVertexBuffer .. | setIndexBuffer .. | draw ..
  | drawIndexed .. => true
  | _ => false

/-- A call that neither records commands nor has to do with a texture of the surface. -/
def IsPlain (e : GpuEvent) : Bool := !e.IsCommand && !e.MovesTexture

lemma isPlain_iff {e : GpuEvent} : e.IsPlain ↔ e.IsCommand = false ∧ e.MovesTexture = false := by
  simp [IsPlain]

/-- The encoders that wait for a submission after a call. -/
def waitingAfter (encoders : List ℕ) : GpuEvent → List ℕ
  | createEncoder number _ => number :: encoders
  | submit numbers => encoders.diff numbers
  | _ => encoders

lemma waitingAfter_of_not_isCommand {e : GpuEvent} (h : e.IsCommand = false)
    (encoders : List ℕ) : e.waitingAfter encoders = encoders := by
  cases e with
  | createEncoder => cases h
  | submit => cases h
  | _ => rfl

lemma not_movesTexture_of_isPassCall {e : GpuEvent} (h : e.IsPassCall) :
    e.MovesTexture = false := by
  cases e with
  | acquire => cases h
  | acquireFailed => cases h
  | present => cases h
  | discard => cases h
  | _ => rfl

lemma waitingAfter_of_isPassCall {e : GpuEvent} (h : e.IsPassCall) (encoders : List ℕ) :
    e.waitingAfter encoders = encoders := by
  cases e with
  | createEncoder => cases h
  | submit => cases h
  | _ => rfl

end GpuEvent

/-- The encoders that were made and not handed over, after some calls. -/
def unsubmitted (encoders : List ℕ) (events : List GpuEvent) : List ℕ :=
  events.foldl GpuEvent.waitingAfter encoders

lemma unsubmitted_append (encoders : List ℕ) (events events' : List GpuEvent) :
    unsubmitted encoders (events ++ events') = unsubmitted (unsubmitted encoders events) events' :=
  List.foldl_append

lemma unsubmitted_of_idle {events : List GpuEvent}
    (h : ∀ e ∈ events, ∀ encoders, e.waitingAfter encoders = encoders) (encoders : List ℕ) :
    unsubmitted encoders events = encoders := by
  induction events with
  | nil => rfl
  | cons e events ih =>
    rw [unsubmitted, List.foldl_cons, h e List.mem_cons_self]
    exact ih fun e he => h e (List.mem_cons_of_mem _ he)

/-! ### Calls to the device -/

namespace GpuDevice

def textureState (d : GpuDevice) : TextureState := ⟨d.frame, d.recorder.frames⟩

/-- What was called between two states of a device. The textures of the surface were treated as
they must be. -/
structure Calls (d : GpuDevice) (events : List GpuEvent) (d' : GpuDevice) : Prop where
  log : d'.recorder.log = d.recorder.log ++ events
  textures : TextureCalls d.textureState events d'.textureState

/-- Calls that leave no encoder over. -/
structure Settled (d : GpuDevice) (events : List GpuEvent) (d' : GpuDevice) : Prop
    extends Calls d events d' where
  encoder : d'.encoder = d.encoder
  submitted : ∀ encoders, unsubmitted encoders events = encoders

/-- Plain calls only. -/
structure Idle (d : GpuDevice) (events : List GpuEvent) (d' : GpuDevice) : Prop
    extends Calls d events d' where
  encoder : d'.encoder = d.encoder
  plain : ∀ e ∈ events, e.IsPlain

/-- Calls before a pass: no commands are recorded yet, and no texture is returned. -/
structure Prelude (d : GpuDevice) (events : List GpuEvent) (d' : GpuDevice) : Prop
    extends Calls d events d' where
  encoder : d'.encoder = d.encoder
  idle : ∀ e ∈ events, e.IsCommand = false ∧ e.ReturnsTexture = false

variable {d d' d'' : GpuDevice} {events events' : List GpuEvent}

namespace Calls

lemma trans (h : Calls d events d') (h' : Calls d' events' d'') :
    Calls d (events ++ events') d'' where
  log := by rw [h'.log, h.log, List.append_assoc]
  textures := h.textures.append h'.textures

/-- The textures were left alone. -/
lemma of_log (hlog : d'.recorder.log = d.recorder.log ++ events) (hframe : d'.frame = d.frame)
    (hframes : d'.recorder.frames = d.recorder.frames)
    (hother : ∀ e ∈ events, e.MovesTexture = false) : Calls d events d' where
  log := hlog
  textures := by
    rw [textureState, textureState, hframe, hframes]
    exact .of_other hother

lemma emit (h : Calls d events d') (hother : ∀ e ∈ events', e.MovesTexture = false) :
    Calls d (events ++ events') (d'.emit events') := h.trans (.of_log rfl rfl rfl hother)

end Calls

namespace Idle

lemma refl (d : GpuDevice) : Idle d [] d where
  log := (List.append_nil _).symm
  textures := .nil _
  encoder := rfl
  plain := List.forall_mem_nil _

lemma trans (h : Idle d events d') (h' : Idle d' events' d'') : Idle d (events ++ events') d'' where
  toCalls := h.toCalls.trans h'.toCalls
  encoder := h'.encoder.trans h.encoder
  plain := List.forall_mem_append.mpr ⟨h.plain, h'.plain⟩

/-- Neither the textures nor the encoder were touched. -/
lemma of_log (hlog : d'.recorder.log = d.recorder.log ++ events) (hframe : d'.frame = d.frame)
    (hframes : d'.recorder.frames = d.recorder.frames) (hencoder : d'.encoder = d.encoder)
    (hplain : events.all GpuEvent.IsPlain = true) : Idle d events d' := by
  have hplain := List.all_eq_true.mp hplain
  exact ⟨.of_log hlog hframe hframes fun e he => (GpuEvent.isPlain_iff.mp (hplain e he)).2,
    hencoder, hplain⟩

lemma prelude (h : Idle d events d') : Prelude d events d' where
  toCalls := h.toCalls
  encoder := h.encoder
  idle e he := by
    obtain ⟨hcommand, htexture⟩ := GpuEvent.isPlain_iff.mp (h.plain e he)
    exact ⟨hcommand, (Bool.or_eq_false_iff.mp htexture).2⟩

lemma settled (h : Idle d events d') : Settled d events d' where
  toCalls := h.toCalls
  encoder := h.encoder
  submitted := unsubmitted_of_idle fun e he =>
    GpuEvent.waitingAfter_of_not_isCommand (GpuEvent.isPlain_iff.mp (h.plain e he)).1

end Idle

lemma Prelude.trans (h : Prelude d events d') (h' : Prelude d' events' d'') :
    Prelude d (events ++ events') d'' where
  toCalls := h.toCalls.trans h'.toCalls
  encoder := h'.encoder.trans h.encoder
  idle := List.forall_mem_append.mpr ⟨h.idle, h'.idle⟩

lemma Settled.trans (h : Settled d events d') (h' : Settled d' events' d'') :
    Settled d (events ++ events') d'' where
  toCalls := h.toCalls.trans h'.toCalls
  encoder := h'.encoder.trans h.encoder
  submitted encoders := by rw [unsubmitted_append, h.submitted, h'.submitted]

/-! ### Calls without a pass -/

lemma idle_realize (p : GpuPipeline) (q : GpuDepthStencil) (d : GpuDevice) :
    ∃ events, Idle d events (realize p q d).2 := by
  rw [realize, Recorder.createPipeline]
  split
  · exact ⟨[], .refl d⟩
  · dsimp only
    cases d.recorder.script.pipelineErrors.headD none with
    | none => exact ⟨_, .of_log rfl rfl rfl rfl rfl⟩
    | some reason => exact ⟨_, .of_log rfl rfl rfl rfl rfl⟩

lemma idle_compilePipeline (key : PipelineKey) (layout : Option VertexLayout) (d : GpuDevice) :
    ∃ events, Idle d events (compilePipeline key layout d).2 := by
  rw [compilePipeline]
  split
  · exact ⟨[], .refl d⟩
  · split
    · exact ⟨[], .refl d⟩
    · rename_i template _
      obtain ⟨events, hidle⟩ := idle_realize ⟨d.templates + 1, template⟩ defaultDepthStencil
        { d with templates := d.templates + 1 }
      have hcounted : Idle d [] { d with templates := d.templates + 1 } :=
        .of_log (List.append_nil _).symm rfl rfl rfl rfl
      refine ⟨[] ++ events, ?_⟩
      dsimp only
      split
      · rename_i hcall
        rw [hcall] at hidle
        exact hcounted.trans hidle
      · rename_i hcall
        rw [hcall] at hidle
        exact hcounted.trans hidle

lemma idle_configureSurface (d : GpuDevice) :
    Idle d [.configure Recorder.attachmentUsage d.surface.config 0] d.configureSurface :=
  .of_log rfl rfl rfl rfl rfl

lemma idle_applyGeometry (geometry : SurfaceGeometry) (d : GpuDevice) :
    ∃ events, Idle d events (d.applyGeometry geometry) := by
  rw [applyGeometry]
  split
  · exact ⟨[], .refl d⟩
  · exact ⟨_, .of_log rfl rfl rfl rfl rfl⟩

lemma idle_createBuffer (size : ℕ) (label : Option String) (d : GpuDevice) :
    ∃ events, Idle d events (createBuffer size label d).2 := by
  rw [createBuffer]
  dsimp only
  split
  · exact ⟨[], .refl d⟩
  · exact ⟨_, .of_log rfl rfl rfl rfl rfl⟩

lemma idle_writeBuffer (buffer : BufferId) (offset : ℕ) (bytes : Bytes) (d : GpuDevice) :
    ∃ events, Idle d events (writeBuffer buffer offset bytes d).2 := by
  rw [writeBuffer]
  split
  · exact ⟨[], .refl d⟩
  · exact ⟨_, .of_log rfl rfl rfl rfl rfl⟩

/-- A copy is handed over at once, with an encoder of its own. -/
lemma settled_copyBuffer (source : BufferId) (sourceOffset : ℕ) (target : BufferId)
    (targetOffset length : ℕ) (d : GpuDevice) :
    ∃ events, Settled d events (copyBuffer source sourceOffset target targetOffset length d).2 ∧
      ∀ e ∈ events, e.MovesTexture = false := by
  rw [copyBuffer]
  split
  · exact ⟨[], (Idle.refl d).settled, List.forall_mem_nil _⟩
  · split
    · exact ⟨[], (Idle.refl d).settled, List.forall_mem_nil _⟩
    · set number := d.recorder.encoders + 1
      have hother : ∀ e ∈ [GpuEvent.createEncoder number (d.label "kiln upload encoder"),
          .copy number source sourceOffset target targetOffset length, .finish number,
          .submit [number]], e.MovesTexture = false := by
        simp [GpuEvent.MovesTexture, GpuEvent.AsksForTexture, GpuEvent.ReturnsTexture]
      refine ⟨_, ⟨⟨List.append_assoc .., .of_other hother⟩, rfl, fun encoders => ?_⟩, hother⟩
      change (number :: encoders).diff [number] = encoders
      simp

lemma idle_createSampledView (width height : ℕ) (d : GpuDevice) :
    ∃ events, Idle d events (createSampledView width height d).2 := by
  rw [createSampledView]
  split
  · exact ⟨_, .of_log (List.append_assoc ..) rfl rfl rfl rfl⟩
  · exact ⟨[], .refl d⟩

/-- The texture that is held is given up, if there is one. -/
lemma settled_dropFrame (d : GpuDevice) :
    Settled d (d.frame.toList.map .discard) d.dropFrame := by
  rw [dropFrame]
  split
  · rename_i number hframe
    rw [hframe]
    refine ⟨⟨rfl, ?_⟩, rfl, fun encoders => rfl⟩
    rw [textureState, hframe]
    exact .discard (.nil _)
  · rename_i hframe
    rw [hframe]
    exact (Idle.refl d).settled

/-- The texture that is held is shown, if there is one; nothing else is called. -/
lemma settled_present (d : GpuDevice) : Settled d (d.frame.toList.map .present) d.present := by
  rw [present]
  split
  · rename_i number hframe
    rw [hframe]
    refine ⟨⟨rfl, ?_⟩, rfl, fun encoders => rfl⟩
    rw [textureState, hframe]
    exact .present (.nil _)
  · rename_i hframe
    rw [hframe]
    exact (Idle.refl d).settled

lemma idle_resizeTargets (width height : ℕ) {d : GpuDevice} (hframe : d.frame = none) :
    ∃ events, Idle d events (resizeTargets width height d).2 := by
  have hdropped : d.dropFrame = d := by rw [dropFrame, hframe]
  rw [resizeTargets, hdropped]
  split
  · exact ⟨[], .refl d⟩
  · have hdepth : Idle d _ { d with
        recorder := (d.recorder.createTexture (d.label "kiln depth-stencil") width height
          d.sampleCount depthStencilFormat).2 } :=
      .of_log rfl rfl rfl rfl rfl
    obtain ⟨events, hsampled⟩ := idle_createSampledView width height { d with
      recorder := (d.recorder.createTexture (d.label "kiln depth-stencil") width height
        d.sampleCount depthStencilFormat).2 }
    exact ⟨_, (hdepth.trans hsampled).trans (.of_log rfl rfl rfl rfl rfl)⟩

/-- Targets are made anew once the held texture is given up. -/
lemma settled_resizeTargets (width height : ℕ) (d : GpuDevice) :
    ∃ events, Settled d events (resizeTargets width height d).2 ∧
      ∀ e ∈ events, e.MovesTexture → ∃ number, e = .discard number := by
  by_cases hsize : width = 0 ∨ height = 0
  · rw [resizeTargets, if_pos hsize]
    exact ⟨[], (Idle.refl d).settled, List.forall_mem_nil _⟩
  · rw [resizeTargets_dropFrame hsize]
    obtain ⟨events, hidle⟩ := idle_resizeTargets width height d.dropFrame_frame
    refine ⟨_, d.settled_dropFrame.trans hidle.settled, fun e he hmoves => ?_⟩
    rcases List.mem_append.mp he with he | he
    · obtain ⟨number, -, rfl⟩ := List.mem_map.mp he
      exact ⟨number, rfl⟩
    · rw [(GpuEvent.isPlain_iff.mp (hidle.plain e he)).2] at hmoves
      cases hmoves

/-- Every call but a clear, a draw and a submission leaves no encoder over, and leaves the textures
of the surface alone but for showing one or, for new targets, giving one up. -/
theorem settled_perform (request : Call) (d : GpuDevice)
    (hkind : request.kind ∉ [.clearing, .drawing, .submitting]) :
    ∃ events, Settled d events (request.perform d).2 ∧
      ∀ e ∈ events, e.MovesTexture →
        (∃ number, e = .present number ∧ request.kind = .presenting) ∨
          ∃ number, e = .discard number ∧ request.kind = .targets := by
  have hidle : ∀ {d' : GpuDevice}, (∃ events, Idle d events d') →
      ∃ events, Settled d events d' ∧ ∀ e ∈ events, e.MovesTexture = false := by
    rintro d' ⟨events, h⟩
    exact ⟨events, h.settled, fun e he => (GpuEvent.isPlain_iff.mp (h.plain e he)).2⟩
  have hother : ∀ {d' : GpuDevice},
      (∃ events, Settled d events d' ∧ ∀ e ∈ events, e.MovesTexture = false) →
      ∃ events, Settled d events d' ∧ ∀ e ∈ events, e.MovesTexture →
        (∃ number, e = .present number ∧ request.kind = .presenting) ∨
          ∃ number, e = .discard number ∧ request.kind = .targets := by
    rintro d' ⟨events, h, hother⟩
    exact ⟨events, h, fun e he hmoves => absurd (hother e he) (by rw [hmoves]; decide)⟩
  cases request with
  | compilePipeline key layout => exact hother (hidle (idle_compilePipeline key layout d))
  | compileDepthStencil key => exact hother (hidle ⟨[], .refl d⟩)
  | createLayout layout =>
    refine hother (hidle ⟨[], ?_⟩)
    change Idle d [] (createLayout layout d).2
    rw [createLayout]
    split <;> exact .refl d
  | createBuffer size label => exact hother (hidle (idle_createBuffer size label d))
  | releaseBuffer id => exact hother (hidle ⟨[], .refl d⟩)
  | writeBuffer id offset bytes => exact hother (hidle (idle_writeBuffer id offset bytes d))
  | copyBuffer source sourceOffset target targetOffset length =>
    exact hother (settled_copyBuffer source sourceOffset target targetOffset length d)
  | applyGeometry geometry thread => exact hother (hidle (idle_applyGeometry geometry d))
  | detachSurface thread =>
    exact hother (hidle ⟨[], .of_log (List.append_nil _).symm rfl rfl rfl rfl⟩)
  | resizeTargets width height =>
    obtain ⟨events, h, hreturns⟩ := settled_resizeTargets width height d
    exact ⟨events, h, fun e he hmoves => .inr ((hreturns e he hmoves).imp fun _ h => ⟨h, rfl⟩)⟩
  | clear color => simp [Request.kind] at hkind
  | encodeDraw config call => simp [Request.kind] at hkind
  | submit => simp [Request.kind] at hkind
  | present =>
    refine ⟨_, d.settled_present, fun e he _ => .inl ?_⟩
    obtain ⟨number, -, rfl⟩ := List.mem_map.mp he
    exact ⟨number, rfl, rfl⟩

end GpuDevice

/-! ### Passes and units -/

/-- The calls of at most one pass on an encoder, and how many of them draw. -/
inductive PassCalls (encoder : ℕ) : List GpuEvent → ℕ → Prop
  | unbegun : PassCalls encoder [] 0
  | cleared (label : Option String) (color : ColorAttachment) (depth : DepthAttachment) :
      PassCalls encoder [.beginPass encoder label color depth] 0
  | drawn (label : Option String) (color : ColorAttachment) (depth : DepthAttachment)
      (pipeline : ℕ) {inside : List GpuEvent} (inside_calls : ∀ e ∈ inside, e.IsPassCall) :
      PassCalls encoder
        (.beginPass encoder label color depth :: .setPipeline pipeline :: inside)
        (inside.countP GpuEvent.IsDraw)

/-- The calls of a unit of work, and how many of them draw. After calls that record nothing comes
exactly one submission: of nothing, or of one encoder with at most one pass. -/
inductive UnitCalls : List GpuEvent → ℕ → Prop
  | skipped {before : List GpuEvent}
      (before_idle : ∀ e ∈ before, e.IsCommand = false ∧ e.ReturnsTexture = false) :
      UnitCalls (before ++ [.submit []]) 0
  | recorded {before pass : List GpuEvent} {encoder draws : ℕ} {label : Option String}
      (before_idle : ∀ e ∈ before, e.IsCommand = false ∧ e.ReturnsTexture = false)
      (pass_calls : PassCalls encoder pass draws) :
      UnitCalls (before ++ .createEncoder encoder label :: pass ++
        [.finish encoder, .submit [encoder]]) draws

namespace PassCalls

variable {encoder draws : ℕ} {pass : List GpuEvent}

lemma plain (h : PassCalls encoder pass draws) :
    ∀ e ∈ pass, e.MovesTexture = false ∧ ∀ encoders, e.waitingAfter encoders = encoders := by
  cases h with
  | unbegun => exact List.forall_mem_nil _
  | cleared label color depth => exact List.forall_mem_singleton.mpr ⟨rfl, fun _ => rfl⟩
  | drawn label color depth pipeline inside_calls =>
    refine List.forall_mem_cons.mpr ⟨⟨rfl, fun _ => rfl⟩,
      List.forall_mem_cons.mpr ⟨⟨rfl, fun _ => rfl⟩, fun e he => ?_⟩⟩
    exact ⟨GpuEvent.not_movesTexture_of_isPassCall (inside_calls e he),
      GpuEvent.waitingAfter_of_isPassCall (inside_calls e he)⟩

end PassCalls

namespace UnitCalls

variable {draws : ℕ} {events : List GpuEvent}

/-- A unit leaves no encoder over. -/
lemma submitted (h : UnitCalls events draws) (encoders : List ℕ) :
    unsubmitted encoders events = encoders := by
  have hidle : ∀ before : List GpuEvent,
      (∀ e ∈ before, e.IsCommand = false ∧ e.ReturnsTexture = false) →
        unsubmitted encoders before = encoders := fun before hbefore =>
    unsubmitted_of_idle (fun e he => GpuEvent.waitingAfter_of_not_isCommand (hbefore e he).1) _
  cases h with
  | skipped before_idle =>
    rw [unsubmitted_append, hidle _ before_idle]
    rfl
  | @recorded before pass encoder _ label before_idle pass_calls =>
    rw [unsubmitted_append, unsubmitted_append, hidle _ before_idle]
    have hpass : unsubmitted encoders (.createEncoder encoder label :: pass) =
        encoder :: encoders :=
      unsubmitted_of_idle (fun e he => (pass_calls.plain e he).2) (encoder :: encoders)
    rw [hpass]
    change (encoder :: encoders).diff [encoder] = encoders
    simp

/-- A unit returns no texture. -/
lemma not_returnsTexture (h : UnitCalls events draws) : ∀ e ∈ events, e.ReturnsTexture = false := by
  cases h with
  | skipped before_idle =>
    exact List.forall_mem_append.mpr
      ⟨fun e he => (before_idle e he).2, List.forall_mem_singleton.mpr rfl⟩
  | recorded before_idle pass_calls =>
    refine List.forall_mem_append.mpr ⟨List.forall_mem_append.mpr
      ⟨fun e he => (before_idle e he).2, List.forall_mem_cons.mpr ⟨rfl, fun e he => ?_⟩⟩, ?_⟩
    · exact (Bool.or_eq_false_iff.mp (pass_calls.plain e he).1).2
    · simp [GpuEvent.ReturnsTexture]

end UnitCalls

/-- A new texture is numbered one above the last. -/
lemma Recorder.acquire_numbered (r : Recorder) :
    (∃ r', r.acquire = (.ok (r.frames + 1), r') ∧ r'.log = r.log ++ [.acquire (r.frames + 1)] ∧
        r'.frames = r.frames + 1) ∨
      ∃ status r', r.acquire = (.error status, r') ∧ r'.log = r.log ++ [.acquireFailed status] ∧
        r'.frames = r.frames := by
  rw [acquire]
  dsimp only
  split
  · exact .inl ⟨_, rfl, rfl, rfl⟩
  · exact .inr ⟨_, _, rfl, rfl, rfl⟩

namespace GpuDevice

variable {d d' : GpuDevice} {events : List GpuEvent} {draws : ℕ}

/-- What encoding a clear or a draw leaves on a device without an encoder: nothing was recorded, or
at most one pass on a new encoder. -/
inductive Encoding (d : GpuDevice) : List GpuEvent → GpuDevice → ℕ → Prop
  | skipped {events : List GpuEvent} {d' : GpuDevice} (calls : Prelude d events d') :
      Encoding d events d' 0
  | recorded {before pass : List GpuEvent} {d' : GpuDevice} {encoder draws : ℕ}
      {label : Option String}
      (calls : Calls d (before ++ .createEncoder encoder label :: pass) d')
      (encoder_eq : d'.encoder = some encoder)
      (before_idle : ∀ e ∈ before, e.IsCommand = false ∧ e.ReturnsTexture = false)
      (pass_calls : PassCalls encoder pass draws) :
      Encoding d (before ++ .createEncoder encoder label :: pass) d' draws

/-- The submission after an encoding hands over what was recorded, and no encoder is left. -/
lemma Encoding.submit (h : Encoding d events d' draws) (hencoder : d.encoder = none) :
    ∃ rest, Calls d (events ++ rest) d'.submit ∧ d'.submit.encoder = none ∧
      UnitCalls (events ++ rest) draws := by
  cases h with
  | skipped calls =>
    have hnone : d'.encoder = none := calls.encoder.trans hencoder
    have hsubmit : d'.submit = d'.emit [.submit []] := by rw [GpuDevice.submit, hnone]
    rw [hsubmit]
    exact ⟨_, calls.toCalls.emit (List.forall_mem_singleton.mpr rfl), hnone, .skipped calls.idle⟩
  | @recorded before pass _ encoder _ label calls encoder_eq before_idle pass_calls =>
    have hsubmit : d'.submit =
        { d' with encoder := none }.emit [.finish encoder, .submit [encoder]] := by
      rw [GpuDevice.submit, encoder_eq]
    have htaken : Calls d' [.finish encoder, .submit [encoder]] d'.submit := by
      rw [hsubmit]
      exact .of_log rfl rfl rfl (by
        simp [GpuEvent.MovesTexture, GpuEvent.AsksForTexture, GpuEvent.ReturnsTexture])
    refine ⟨_, calls.trans htaken, by rw [hsubmit]; rfl, .recorded before_idle pass_calls⟩

/-! ### Encoding -/

/-- While no texture is held, one is asked for. It comes with the next number, or not at all. -/
lemma prelude_acquire (hframe : d.frame = none) : ∃ events, Prelude d events d.acquire.2 := by
  have hstate : d.textureState = ⟨none, d.recorder.frames⟩ := by rw [textureState, hframe]
  rw [acquire]
  split
  · exact ⟨[], (Idle.refl d).prelude⟩
  · rcases d.recorder.acquire_numbered with ⟨r, hcall, hlog, hframes⟩ |
        ⟨status, r, hcall, hlog, hframes⟩
    · rw [hcall]
      refine ⟨.acquire (d.recorder.frames + 1) :: [.createView (.frame (d.recorder.frames + 1))],
        ⟨?_, ?_⟩, rfl, by simp [GpuEvent.IsCommand, GpuEvent.ReturnsTexture]⟩
      · change r.log ++ _ = _
        rw [hlog, List.append_assoc]
        rfl
      · change TextureCalls d.textureState _ ⟨some (d.recorder.frames + 1), r.frames⟩
        rw [hstate, hframes]
        exact .acquire (.other rfl (.nil _))
    · rw [hcall]
      have hrefused : Prelude d [.acquireFailed status] { d with recorder := r } := by
        refine ⟨⟨hlog, ?_⟩, rfl, by simp [GpuEvent.IsCommand, GpuEvent.ReturnsTexture]⟩
        change TextureCalls d.textureState _ ⟨d.frame, r.frames⟩
        rw [hstate, hframe, hframes]
        exact .refused (.nil _)
      have hconfigured := hrefused.trans (idle_configureSurface _).prelude
      cases status with
      | lost => exact ⟨_, hconfigured⟩
      | outdated => exact ⟨_, hconfigured⟩
      | _ => exact ⟨_, hrefused⟩

/-- A frame needs a texture, and then an encoder. -/
lemma ensureFrame_cases (hencoder : d.encoder = none) :
    (∃ fault d' events, d.ensureFrame = (.error fault, d') ∧ Prelude d events d') ∨
      ∃ frame encoder label d' before, d.ensureFrame = (.ok (frame, encoder), d') ∧
        Calls d (before ++ [.createEncoder encoder label]) d' ∧ d'.encoder = some encoder ∧
        ∀ e ∈ before, e.IsCommand = false ∧ e.ReturnsTexture = false := by
  -- With a texture at hand the encoder is made.
  have hmake : ∀ {d₁ : GpuDevice} {before : List GpuEvent}, Prelude d before d₁ →
      d₁.ensureEncoder.2.encoder = some d₁.ensureEncoder.1 ∧
        ∃ label, Calls d (before ++ [.createEncoder d₁.ensureEncoder.1 label])
          d₁.ensureEncoder.2 := by
    intro d₁ before hbefore
    rw [ensureEncoder, hbefore.encoder.trans hencoder]
    exact ⟨rfl, _, hbefore.toCalls.trans (.of_log rfl rfl rfl (List.forall_mem_singleton.mpr rfl))⟩
  rw [ensureFrame]
  cases hframe : d.frame with
  | some frame =>
    obtain ⟨hsome, label, hcalls⟩ := hmake (Idle.refl d).prelude
    exact .inr ⟨frame, _, label, _, [], rfl, hcalls, hsome, List.forall_mem_nil _⟩
  | none =>
    obtain ⟨before, hbefore⟩ := prelude_acquire hframe
    rcases hcall : d.acquire with ⟨answer, d₁⟩
    rw [hcall] at hbefore
    cases answer with
    | error fault => exact .inl ⟨fault, d₁, before, rfl, hbefore⟩
    | ok frame =>
      obtain ⟨hsome, label, hcalls⟩ := hmake hbefore
      exact .inr ⟨frame, _, label, _, before, rfl, hcalls, hsome, hbefore.idle⟩

/-- A pass is begun on the new encoder, or not at all. -/
lemma beginPass_cases (color : Option Color) (hencoder : d.encoder = none) :
    (∃ fault d' events, d.beginPass color = (.error fault, d') ∧ Encoding d events d' 0) ∨
      ∃ encoder label label' attachment depth d' before, d.beginPass color = (.ok (), d') ∧
        Calls d (before ++ [.createEncoder encoder label,
          .beginPass encoder label' attachment depth]) d' ∧
        d'.encoder = some encoder ∧
        ∀ e ∈ before, e.IsCommand = false ∧ e.ReturnsTexture = false := by
  rcases ensureFrame_cases hencoder with ⟨fault, d', events, hcall, hprelude⟩ |
      ⟨frame, encoder, label, d', before, hcall, hcalls, hsome, hbefore⟩
  · rw [beginPass, hcall]
    exact .inl ⟨fault, d', events, rfl, .skipped hprelude⟩
  · cases htargets : d'.targets with
    | none =>
      refine .inl ⟨.resource .targetsNotReady, d', _, ?_, .recorded hcalls hsome hbefore .unbegun⟩
      rw [beginPass, hcall]
      simp only [htargets]
    | some targets =>
      obtain ⟨label', attachment, depth, hbegun⟩ : ∃ label' attachment depth,
          d.beginPass color = (.ok (), d'.emit [.beginPass encoder label' attachment depth]) := by
        rw [beginPass, hcall]
        simp only [htargets]
        exact ⟨_, _, _, rfl⟩
      refine .inr ⟨encoder, label, label', attachment, depth, _, before, hbegun, ?_, hsome, hbefore⟩
      have hpass := hcalls.emit (List.forall_mem_singleton.mpr
        (rfl : (GpuEvent.beginPass encoder label' attachment depth).MovesTexture = false))
      rw [List.append_assoc] at hpass
      exact hpass

/-- A clear records a pass without draw calls, if any. -/
lemma encoding_clear (color : Color) (hencoder : d.encoder = none) :
    ∃ events, Encoding d events (d.beginPass (some color)).2 0 := by
  rcases beginPass_cases (some color) hencoder with ⟨fault, d', events, hcall, hencoding⟩ |
      ⟨encoder, label, label', attachment, depth, d', before, hcall, hcalls, hsome, hbefore⟩
  · rw [hcall]
    exact ⟨events, hencoding⟩
  · rw [hcall]
    exact ⟨_, .recorded hcalls hsome hbefore (.cleared ..)⟩

/-! ### Draws -/

lemma Encoding.prepend {before : List GpuEvent} {d₁ : GpuDevice} (h : Encoding d₁ events d' draws)
    (hbefore : Prelude d before d₁) : Encoding d (before ++ events) d' draws := by
  cases h with
  | skipped calls => exact .skipped (hbefore.trans calls)
  | recorded calls encoder_eq before_idle pass_calls =>
    rw [← List.append_assoc]
    refine .recorded ?_ encoder_eq (List.forall_mem_append.mpr ⟨hbefore.idle, before_idle⟩)
      pass_calls
    rw [List.append_assoc]
    exact hbefore.toCalls.trans calls

variable {P D : Type}

lemma countP_scissorEvents {scissor : Option ScissorRect} {targets : FrameTargets}
    {events : List GpuEvent} (h : scissorEvents scissor targets = some events) :
    events.countP GpuEvent.IsDraw = 0 := by
  cases scissor with
  | none =>
    cases h
    rfl
  | some r =>
    obtain ⟨clipped, -, rfl⟩ := Option.map_eq_some_iff.mp h
    rfl

/-- A pass that is encoded in full draws once, and otherwise not at all. -/
lemma countP_drawEvents (config : DrawConfig P D) (call : DrawCall) (targets : FrameTargets)
    (maxDimension : ℕ) :
    (drawEvents config call targets maxDimension).2.countP GpuEvent.IsDraw =
      if (drawEvents config call targets maxDimension).1 = .ok () then 1 else 0 := by
  have hstate : ∀ rect : ViewportRect, (GpuEvent.setViewport rect ::
      (config.stencilReference.map GpuEvent.setStencilReference).toList ++
      (call.vertex.map fun b => GpuEvent.setVertexBuffer 0 b.buffer b.offset b.size).toList).countP
        GpuEvent.IsDraw = 0 := by
    intro rect
    cases config.stencilReference <;> cases call.vertex <;> rfl
  have hcall : ∀ events, callEvents call = .ok events → events.countP GpuEvent.IsDraw = 1 := by
    intro events h
    rw [callEvents] at h
    split at h
    · cases h
      rfl
    · cases h
      rfl
    · cases h
  rw [drawEvents]
  dsimp only
  split
  · rfl
  · cases hevents : callEvents call with
    | ok events =>
      dsimp only
      rw [List.countP_append, hstate, hcall events hevents, if_pos rfl]
    | error fault =>
      have hfailed : ¬ (.error fault : Except DeviceFault Unit) = .ok () := by rintro ⟨⟩
      dsimp only
      rw [hstate, if_neg hfailed]

/-- The pass of a draw has one draw call where it is encoded and the scissor leaves something. -/
lemma encoding_pass (config : DrawConfig P D) (call : DrawCall) (pipeline : ℕ)
    (targets : FrameTargets) (hencoder : d.encoder = none) :
    ∃ events draws, Encoding d events (encodePass config call pipeline targets d).2 draws ∧
      draws ≤ 1 ∧ (draws = 1 ↔ (encodePass config call pipeline targets d).1 = .ok () ∧
        scissorEvents config.scissor targets ≠ none) := by
  rcases beginPass_cases none hencoder with ⟨fault, d', events, hcall, hencoding⟩ |
      ⟨encoder, label, label', attachment, depth, d', before, hcall, hcalls, hsome, hbefore⟩
  · rw [encodePass, hcall]
    exact ⟨events, 0, hencoding, Nat.zero_le 1, by simp⟩
  · -- What follows the beginning of the pass belongs to it.
    have hpass : ∀ inside : List GpuEvent, (∀ e ∈ inside, e.IsPassCall) →
        Encoding d (before ++ .createEncoder encoder label ::
            (.beginPass encoder label' attachment depth :: .setPipeline pipeline :: inside))
          (d'.emit (.setPipeline pipeline :: inside)) (inside.countP GpuEvent.IsDraw) := by
      intro inside hinside
      refine .recorded ?_ hsome hbefore (.drawn label' attachment depth pipeline hinside)
      have hset := hcalls.emit (List.forall_mem_cons.mpr
        ⟨(rfl : (GpuEvent.setPipeline pipeline).MovesTexture = false), fun e he =>
          GpuEvent.not_movesTexture_of_isPassCall (hinside e he)⟩)
      rw [List.append_assoc] at hset
      exact hset
    rw [encodePass, hcall]
    dsimp only
    cases hscissor : scissorEvents config.scissor targets with
    | none => exact ⟨_, 0, hpass [] (List.forall_mem_nil _), Nat.zero_le 1, by simp⟩
    | some scissor =>
      dsimp only
      rw [emit_emit]
      generalize (d'.emit [.setPipeline pipeline]).recorder.script.maxDimension = maxDimension
      have hdraws : (scissor ++ (drawEvents config call targets maxDimension).2).countP
          GpuEvent.IsDraw =
            if (drawEvents config call targets maxDimension).1 = .ok () then 1 else 0 := by
        rw [List.countP_append, countP_scissorEvents hscissor, countP_drawEvents, Nat.zero_add]
      refine ⟨_, _, hpass (scissor ++ (drawEvents config call targets maxDimension).2)
        (passEvents_isPassCall hscissor call maxDimension), ?_, ?_⟩
      · rw [hdraws]
        split <;> simp
      · rw [hdraws]
        split <;> simp_all

end GpuDevice

/-- The scissor leaves nothing of the targets. -/
def DrawConfig.Clipped {P D : Type} (config : DrawConfig P D) (d : GpuDevice) : Prop :=
  ∃ r targets, config.scissor = some r ∧ d.targets = some targets ∧
    Rect.flipAndClip ⟨.ofInt r.x, .ofInt r.y, .ofInt r.width, .ofInt r.height⟩ targets.width
      targets.height = none

lemma DrawConfig.clipped_iff {P D : Type} {config : DrawConfig P D} {d : GpuDevice}
    {targets : FrameTargets} (htargets : d.targets = some targets) :
    config.Clipped d ↔ GpuDevice.scissorEvents config.scissor targets = none := by
  cases hscissor : config.scissor with
  | none => simp [Clipped, GpuDevice.scissorEvents, hscissor]
  | some r => simp [Clipped, GpuDevice.scissorEvents, hscissor, htargets]

namespace GpuDevice

variable {d : GpuDevice}

/-- A draw makes one draw call where it is encoded and not clipped, and none otherwise. -/
lemma encoding_draw (config : DrawConfig GpuPipeline GpuDepthStencil) (call : DrawCall)
    (hencoder : d.encoder = none) :
    ∃ events draws, Encoding d events (encodeDraw config call d).2 draws ∧ draws ≤ 1 ∧
      (draws = 1 ↔ (encodeDraw config call d).1 = .ok () ∧ ¬ config.Clipped d) := by
  rw [encodeDraw]
  split
  · exact ⟨[], 0, .skipped (Idle.refl d).prelude, Nat.zero_le 1, by simp⟩
  · cases htargets : d.targets with
    | none => exact ⟨[], 0, .skipped (Idle.refl d).prelude, Nat.zero_le 1, by simp⟩
    | some targets =>
      obtain ⟨before, hrealize⟩ := idle_realize config.pipeline config.depthStencil d
      dsimp only
      rcases hcall : realize config.pipeline config.depthStencil d with ⟨answer, d₁⟩
      rw [hcall] at hrealize
      cases answer with
      | error fault => exact ⟨before, 0, .skipped hrealize.prelude, Nat.zero_le 1, by simp⟩
      | ok pipeline =>
        obtain ⟨events, draws, hpass, hle, hiff⟩ := encoding_pass config call pipeline targets
          (hrealize.encoder.trans hencoder)
        refine ⟨_, draws, hpass.prepend hrealize.prelude, hle, ?_⟩
        rw [DrawConfig.clipped_iff htargets]
        exact hiff

/-- The requests that encode a unit of work, with what makes them draw. -/
theorem encoding_perform (request : Call) (hkind : request.kind ∈ [.clearing, .drawing])
    (hencoder : d.encoder = none) :
    ∃ events draws, Encoding d events (request.perform d).2 draws ∧ draws ≤ 1 ∧
      (draws = 1 ↔ ∃ config call, request = .encodeDraw config call ∧
        request.failure d = none ∧ ¬ config.Clipped d) := by
  cases request with
  | clear color =>
    obtain ⟨events, hencoding⟩ := encoding_clear color hencoder
    exact ⟨events, 0, hencoding, Nat.zero_le 1, by simp⟩
  | encodeDraw config call =>
    obtain ⟨events, draws, hencoding, hle, hiff⟩ := encoding_draw config call hencoder
    refine ⟨events, draws, hencoding, hle, hiff.trans ⟨?_, ?_⟩⟩
    · rintro ⟨hok, hclipped⟩
      refine ⟨config, call, rfl, ?_, hclipped⟩
      change failureOf (encodeDraw config call d).1 = none
      rw [hok]
      rfl
    · rintro ⟨_, _, heq, hdone, hclipped⟩
      cases heq
      change failureOf (encodeDraw config call d).1 = none at hdone
      refine ⟨?_, hclipped⟩
      cases hanswer : (encodeDraw config call d).1 with
      | ok answer => rfl
      | error fault =>
        rw [hanswer] at hdone
        cases hdone
  | _ => simp [Request.kind] at hkind

end GpuDevice

end RenderBridge
