import RenderBridge.Proofs.Buffer.Allocator
import RenderBridge.Proofs.Buffer.Label
import RenderBridge.Proofs.Gpu.Faithful
/-!
The labels of the objects on a graphics machine.

* `GpuEvent.label?`, `GpuEvent.Labelled`: the label of what a call creates, and calls that label
  what they create exactly where labels are wanted.
* `Recorder.Logs`: calls with a property were made.
* `GpuDevice.Labels`, `labels_perform`: **all calls of a device label what they create where labels
  are wanted**, but for buffers, which get the label that is asked for.
* `GpuDevice.labels_openOn`: so does opening, whether it succeeds or not.
* `Step.run_logs`: so does a run, where buffers are asked for so.
* `labels_follow_flag`: **in every run** whatever is created has a label where labels are wanted and
  none where they are not, except for the buffer of the staging ring, which always has one.
-/

set_option autoImplicit false

namespace RenderBridge

/-! ### Calls that create something -/

namespace GpuEvent

/-- The label with which a call creates something; none for calls that create nothing with a
label. -/
def label? : GpuEvent → Option (Option String)
  | requestDevice label .. | createShader label _ | createPipelineLayout label ..
  | createBuffer _ label .. | createTexture _ label .. | createPipeline _ label _
  | createEncoder _ label | beginPass _ label .. => some label
  | _ => none

/-- A call that labels what it creates where labels are wanted, and only there. -/
def Labelled (labels : Bool) (e : GpuEvent) : Prop :=
  ∀ label, e.label? = some label → label.isSome = labels

/-- A call that creates a buffer with the label of the staging ring. -/
def IsStaging : GpuEvent → Prop
  | createBuffer _ label .. => label = some StagingRing.label
  | _ => False

variable {labels : Bool} {e : GpuEvent}

lemma labelled_of_none (h : e.label? = none) : e.Labelled labels := by
  intro label hlabel
  cases h.symm.trans hlabel

lemma labelled_of_some {label : Option String} (h : e.label? = some label)
    (hlabel : label.isSome = labels) : e.Labelled labels := by
  intro label' h'
  cases h.symm.trans h'
  exact hlabel

lemma labelled_of_isPassCall (h : e.IsPassCall) : e.Labelled labels := by
  refine labelled_of_none ?_
  cases e with
  | setScissor | setViewport | setStencilReference | setVertexBuffer | setIndexBuffer => rfl
  | draw | drawIndexed => rfl
  | _ => cases h

end GpuEvent

/-! ### The machine -/

namespace Recorder

/-- Calls were made, and all of them have a property. -/
def Logs (Q : GpuEvent → Prop) (r r' : Recorder) : Prop :=
  ∃ events, r'.log = r.log ++ events ∧ ∀ e ∈ events, Q e

variable {Q Q' : GpuEvent → Prop} {r r' r'' : Recorder} {labels : Bool} {label : Option String}

namespace Logs

lemma of_log {events : List GpuEvent} (hlog : r'.log = r.log ++ events)
    (hevents : ∀ e ∈ events, Q e) : Logs Q r r' := ⟨events, hlog, hevents⟩

/-- A machine that changes, but for what was called. -/
lemma of_eq (h : r'.log = r.log) : Logs Q r r' :=
  .of_log (h.trans (List.append_nil _).symm) (List.forall_mem_nil _)

lemma trans (h : Logs Q r r') (h' : Logs Q r' r'') : Logs Q r r'' := by
  obtain ⟨events, hlog, hevents⟩ := h
  obtain ⟨events', hlog', hevents'⟩ := h'
  exact ⟨events ++ events', by rw [hlog', hlog, List.append_assoc],
    List.forall_mem_append.mpr ⟨hevents, hevents'⟩⟩

lemma mono (h : Logs Q r r') (hQ : ∀ e, Q e → Q' e) : Logs Q' r r' := by
  obtain ⟨events, hlog, hevents⟩ := h
  exact ⟨events, hlog, fun e he => hQ e (hevents e he)⟩

lemma emit (h : Logs Q r r') {events : List GpuEvent} (hevents : ∀ e ∈ events, Q e) :
    Logs Q r (r'.emit events) := h.trans (.of_log rfl hevents)

lemma single {e : GpuEvent} (hlog : r'.log = r.log ++ [e]) (he : Q e) : Logs Q r r' :=
  .of_log hlog (List.forall_mem_singleton.mpr he)

end Logs

variable (r)

lemma labelled_createTexture (hlabel : label.isSome = labels) (width height : ℕ)
    (samples : UInt32) (format : TextureFormat) :
    r.Logs (GpuEvent.Labelled labels) (r.createTexture label width height samples format).2 :=
  .single rfl (GpuEvent.labelled_of_some rfl hlabel)

lemma labelled_createEncoder (hlabel : label.isSome = labels) :
    r.Logs (GpuEvent.Labelled labels) (r.createEncoder label).2 :=
  .single rfl (GpuEvent.labelled_of_some rfl hlabel)

lemma labelled_createPipeline (hlabel : label.isSome = labels)
    (description : PipelineDescription) :
    r.Logs (GpuEvent.Labelled labels) (r.createPipeline label description).2 := by
  have hevents : ∀ e ∈ [.pushErrorScope "Validation",
      .createPipeline (r.pipelines + 1) label description, .popErrorScope],
      GpuEvent.Labelled labels e := by
    simpa [GpuEvent.Labelled, GpuEvent.label?] using hlabel
  rw [createPipeline]
  dsimp only
  split <;> exact .of_log rfl hevents

lemma labelled_acquire (labels : Bool) : r.Logs (GpuEvent.Labelled labels) r.acquire.2 := by
  rw [acquire]
  dsimp only
  split <;> exact .single rfl (GpuEvent.labelled_of_none rfl)

end Recorder

/-! ### The device -/

namespace GpuDevice

/-- Calls of a device that label what they create where labels are wanted, and only there. -/
structure Labels (d d' : GpuDevice) : Prop where
  recorder : d.recorder.Logs (GpuEvent.Labelled d.labels) d'.recorder
  labels : d'.labels = d.labels

variable {d d' d'' : GpuDevice}

lemma isSome_label (d : GpuDevice) (text : String) : (d.label text).isSome = d.labels := by
  rw [label]
  cases d.labels <;> rfl

namespace Labels

lemma refl (d : GpuDevice) : Labels d d := ⟨.of_eq rfl, rfl⟩

lemma trans (h : Labels d d') (h' : Labels d' d'') : Labels d d'' where
  recorder := by
    have hlater := h'.recorder
    rw [h.labels] at hlater
    exact h.recorder.trans hlater
  labels := h'.labels.trans h.labels

/-- Calls that create nothing with a label. -/
lemma of_log {events : List GpuEvent} (hlog : d'.recorder.log = d.recorder.log ++ events)
    (hevents : ∀ e ∈ events, e.label? = none) (hlabels : d'.labels = d.labels) : Labels d d' :=
  ⟨.of_log hlog fun e he => GpuEvent.labelled_of_none (hevents e he), hlabels⟩

lemma of_recorder {r : Recorder} (h : d.recorder.Logs (GpuEvent.Labelled d.labels) r) :
    Labels d { d with recorder := r } := ⟨h, rfl⟩

lemma emit (h : Labels d d') {events : List GpuEvent} (hevents : ∀ e ∈ events, e.label? = none) :
    Labels d (d'.emit events) := h.trans (.of_log rfl hevents rfl)

lemma emit_single (h : Labels d d') {e : GpuEvent} (he : e.label? = none) :
    Labels d (d'.emit [e]) := h.emit (List.forall_mem_singleton.mpr he)

end Labels

lemma labels_realize (p : GpuPipeline) (q : GpuDepthStencil) (d : GpuDevice) :
    Labels d (realize p q d).2 := by
  have hcreated := d.recorder.labelled_createPipeline (d.isSome_label "kiln pipeline")
    (p.template.describe q.state)
  rw [realize]
  split
  · exact .refl d
  · split <;> rename_i hcall <;> rw [hcall] at hcreated <;> exact ⟨hcreated, rfl⟩

lemma labels_compilePipeline (key : PipelineKey) (layout : Option VertexLayout)
    (d : GpuDevice) : Labels d (compilePipeline key layout d).2 := by
  rw [compilePipeline]
  split
  · exact .refl d
  · split
    · exact .refl d
    · rename_i template _
      have hcounted : Labels d { d with templates := d.templates + 1 } := ⟨.of_eq rfl, rfl⟩
      have hrealize := hcounted.trans
        (labels_realize ⟨d.templates + 1, template⟩ defaultDepthStencil _)
      dsimp only
      split <;> rename_i hcall <;> rw [hcall] at hrealize <;> exact hrealize

lemma labels_writeBuffer (buffer : BufferId) (offset : ℕ) (bytes : Bytes) (d : GpuDevice) :
    Labels d (writeBuffer buffer offset bytes d).2 := by
  rw [writeBuffer]
  split
  · exact .refl d
  · exact (Labels.refl d).emit_single rfl

lemma labels_copyBuffer (source : BufferId) (sourceOffset : ℕ) (target : BufferId)
    (targetOffset length : ℕ) (d : GpuDevice) :
    Labels d (copyBuffer source sourceOffset target targetOffset length d).2 := by
  rw [copyBuffer]
  split
  · exact .refl d
  · split
    · exact .refl d
    · have hencoder := d.recorder.labelled_createEncoder (d.isSome_label "kiln upload encoder")
      exact (Labels.of_recorder hencoder).emit (by simp [GpuEvent.label?])

lemma labels_applyGeometry (geometry : SurfaceGeometry) (d : GpuDevice) :
    Labels d (d.applyGeometry geometry) := by
  rw [applyGeometry]
  split
  · exact .refl d
  · exact .of_log rfl (List.forall_mem_singleton.mpr rfl) rfl

lemma labels_dropFrame (d : GpuDevice) : Labels d d.dropFrame := by
  rw [dropFrame]
  split
  · exact .of_log rfl (List.forall_mem_singleton.mpr rfl) rfl
  · exact .refl d

lemma labels_acquire (d : GpuDevice) : Labels d d.acquire.2 := by
  have hacquire := d.recorder.labelled_acquire d.labels
  rw [acquire]
  split
  · exact .refl d
  · split <;> rename_i hcall <;> rw [hcall] at hacquire
    · rename_i frame r
      have hheld : Labels d { d with recorder := r, frame := some frame } := ⟨hacquire, rfl⟩
      exact hheld.emit_single rfl
    · exact (Labels.of_recorder hacquire).emit_single rfl
    · exact (Labels.of_recorder hacquire).emit_single rfl
    · exact .of_recorder hacquire

lemma labels_createSampledView (width height : ℕ) (d : GpuDevice) :
    Labels d (createSampledView width height d).2 := by
  rw [createSampledView]
  split
  · have htexture := d.recorder.labelled_createTexture (d.isSome_label "kiln msaa color") width
      height d.sampleCount d.colorFormat
    exact (Labels.of_recorder htexture).emit_single rfl
  · exact .refl d

lemma labels_resizeTargets (width height : ℕ) (d : GpuDevice) :
    Labels d (resizeTargets width height d).2 := by
  rw [resizeTargets]
  split
  · exact .refl d
  · have hdrop := d.labels_dropFrame
    generalize d.dropFrame = d₀ at hdrop ⊢
    have hdepth := d₀.recorder.labelled_createTexture (d₀.isSome_label "kiln depth-stencil") width
      height d₀.sampleCount depthStencilFormat
    have hsampled := (Labels.of_recorder hdepth).trans (labels_createSampledView width height _)
    exact (hdrop.trans hsampled).trans (.of_log rfl (List.forall_mem_singleton.mpr rfl) rfl)

lemma labels_ensureEncoder (d : GpuDevice) : Labels d d.ensureEncoder.2 := by
  rw [ensureEncoder]
  split
  · exact .refl d
  · exact ⟨d.recorder.labelled_createEncoder (d.isSome_label _), rfl⟩

lemma labels_ensureFrame (d : GpuDevice) : Labels d d.ensureFrame.2 := by
  have hacquire := d.labels_acquire
  rw [ensureFrame]
  split
  · exact d.labels_ensureEncoder
  · split <;> rename_i hcall <;> rw [hcall] at hacquire
    · exact hacquire
    · exact hacquire.trans (labels_ensureEncoder _)

lemma labels_beginPass (color : Option Color) (d : GpuDevice) :
    Labels d (d.beginPass color).2 := by
  have hframe := d.labels_ensureFrame
  rw [beginPass]
  split <;> rename_i hcall <;> rw [hcall] at hframe
  · exact hframe
  · rename_i d₁
    dsimp only
    split
    · exact hframe
    · exact hframe.trans
        ⟨.single rfl (GpuEvent.labelled_of_some rfl (d₁.isSome_label "kiln pass")), rfl⟩

lemma labels_encodePass {P D : Type} (config : DrawConfig P D) (call : DrawCall)
    (pipeline : ℕ) (targets : FrameTargets) (d : GpuDevice) :
    Labels d (encodePass config call pipeline targets d).2 := by
  have hpass := d.labels_beginPass none
  rw [encodePass]
  split <;> rename_i hcall <;> rw [hcall] at hpass
  · exact hpass
  · rename_i d₁
    have hset : Labels d (d₁.emit [.setPipeline pipeline]) := hpass.emit_single rfl
    dsimp only
    split
    · exact hset
    · rename_i scissor hscissor
      refine hset.trans ⟨.of_log rfl fun e he => ?_, rfl⟩
      exact GpuEvent.labelled_of_isPassCall (passEvents_isPassCall hscissor call _ e he)

lemma labels_encodeDraw (config : DrawConfig GpuPipeline GpuDepthStencil) (call : DrawCall)
    (d : GpuDevice) : Labels d (encodeDraw config call d).2 := by
  rw [encodeDraw]
  split
  · exact .refl d
  · split
    · exact .refl d
    · have hrealize := labels_realize config.pipeline config.depthStencil d
      split <;> rename_i hcall <;> rw [hcall] at hrealize
      · exact hrealize
      · exact hrealize.trans (labels_encodePass config call _ _ _)

lemma labels_submit (d : GpuDevice) : Labels d d.submit := by
  rw [submit]
  split
  · exact .of_log rfl (by simp [GpuEvent.label?]) rfl
  · exact (Labels.refl d).emit_single rfl

lemma labels_present (d : GpuDevice) : Labels d d.present := by
  rw [present]
  split
  · exact .of_log rfl (List.forall_mem_singleton.mpr rfl) rfl
  · exact .refl d

/-- All calls label what they create where labels are wanted, but for buffers. -/
theorem labels_perform (request : Call) (hrequest : request.label? = none) (d : GpuDevice) :
    Labels d (request.perform d).2 := by
  cases request with
  | compilePipeline key layout => exact d.labels_compilePipeline key layout
  | compileDepthStencil key => exact .refl d
  | createLayout layout =>
    change Labels d (createLayout layout d).2
    rw [createLayout]
    split <;> exact .refl d
  | createBuffer size label => cases hrequest
  | releaseBuffer id => exact .refl d
  | writeBuffer id offset bytes => exact d.labels_writeBuffer id offset bytes
  | copyBuffer source sourceOffset target targetOffset length =>
    exact d.labels_copyBuffer source sourceOffset target targetOffset length
  | applyGeometry geometry thread => exact d.labels_applyGeometry geometry
  | detachSurface thread => exact ⟨.of_eq rfl, rfl⟩
  | resizeTargets width height => exact d.labels_resizeTargets width height
  | clear color => exact d.labels_beginPass (some color)
  | encodeDraw config call => exact d.labels_encodeDraw config call
  | submit => exact d.labels_submit
  | present => exact d.labels_present

/-- All calls label what they create where labels are wanted, and buffers get the label that is
asked for. -/
lemma logs_perform {Q : GpuEvent → Prop} (request : Call) (d : GpuDevice)
    (hQ : ∀ e, GpuEvent.Labelled d.labels e → Q e)
    (hbuffer : ∀ label, request.label? = some label →
      ∀ number size, Q (.createBuffer number label size Recorder.bufferUsage false)) :
    d.recorder.Logs Q (request.perform d).2.recorder ∧
      (request.perform d).2.labels = d.labels := by
  cases hrequest : request.label? with
  | none =>
    have hlabels := labels_perform request hrequest d
    exact ⟨hlabels.recorder.mono hQ, hlabels.labels⟩
  | some label =>
    cases request with
    | createBuffer size label =>
      change d.recorder.Logs Q (createBuffer size label d).2.recorder ∧
        (createBuffer size label d).2.labels = d.labels
      rw [createBuffer]
      dsimp only
      split
      · exact ⟨.of_eq rfl, rfl⟩
      · exact ⟨.single rfl (hbuffer label rfl _ size), rfl⟩
    | _ => cases hrequest

end GpuDevice

section

variable {Q : GpuEvent → Prop} {labels : Bool} (hQ : ∀ e, GpuEvent.Labelled labels e → Q e)

include hQ

lemma Linked.logs {d d' : GpuDevice} {es : List GpuExchange} (h : Linked d es d')
    (hlabels : d.labels = labels)
    (hnames : ∀ e ∈ es, e.Names fun label =>
      ∀ number size, Q (.createBuffer number label size Recorder.bufferUsage false)) :
    d.recorder.Logs Q d'.recorder ∧ d'.labels = labels := by
  induction es generalizing d with
  | nil =>
    obtain rfl : d = d' := h
    exact ⟨.of_eq rfl, hlabels⟩
  | cons e es ih =>
    obtain ⟨he, hrest⟩ := h
    have hcall := d.logs_perform e.request (by rw [hlabels]; exact hQ)
      (hnames e List.mem_cons_self)
    have hafter : e.after = (e.request.perform d).2 := by
      rw [he]
      rfl
    rw [← hafter] at hcall
    obtain ⟨hlogs, hlabels'⟩ := ih hrest (hcall.2.trans hlabels)
      fun e he => hnames e (List.mem_cons_of_mem _ he)
    exact ⟨hcall.1.trans hlogs, hlabels'⟩

/-- What a run creates is labelled where labels are wanted, but for buffers, which have the labels
that the run asks for. -/
lemma Step.run_logs (steps : List (Step MachineAnswers)) {c : GpuContext}
    (hlabels : c.device.labels = labels)
    (hnames : ∀ e ∈ trace steps c, e.Names fun label =>
      ∀ number size, Q (.createBuffer number label size Recorder.bufferUsage false)) :
    c.device.recorder.Logs Q (run steps c).device.recorder := by
  induction steps generalizing c with
  | nil => exact .of_eq rfl
  | cons step steps ih =>
    rw [trace_cons] at hnames
    obtain ⟨hfirst, hrest⟩ := List.forall_mem_append.mp hnames
    have hstep : c.device.recorder.Logs Q (step.apply c).device.recorder ∧
        (step.apply c).device.labels = labels := by
      cases step with
      | perform op => exact (op.linked_exchanges c).1.logs hQ hlabels hfirst
      | adjust answers => exact ⟨.of_eq rfl, hlabels⟩
      | setUi _ | setHost _ => exact ⟨.of_eq rfl, hlabels⟩
    exact hstep.1.trans (ih hstep.2 hrest)

end

/-! ### Opening -/

namespace GpuDevice

variable (config : Config) (init : GpuInit) (r : Recorder)

lemma labels_assemble :
    r.Logs (GpuEvent.Labelled config.debugFlags.labels) (assemble config init r).recorder ∧
      (assemble config init r).labels = config.debugFlags.labels := by
  have hconfigure : r.Logs (GpuEvent.Labelled config.debugFlags.labels)
      (r.emit [.configure Recorder.attachmentUsage (surfaceConfig config init
        r.script.alphaModes) 0]) := .single rfl (GpuEvent.labelled_of_none rfl)
  refine ⟨hconfigure.emit ?_, rfl⟩
  cases config.debugFlags.labels <;> simp [GpuEvent.Labelled, GpuEvent.label?]

/-- Opening labels what it creates where labels are wanted, also where it fails part of the way. -/
lemma labels_openOn :
    match openOn config init r with
    | .ok d => r.Logs (GpuEvent.Labelled config.debugFlags.labels) d.recorder ∧
        d.labels = config.debugFlags.labels
    | .error (_, r') => r.Logs (GpuEvent.Labelled config.debugFlags.labels) r' := by
  have hlabel : (if config.debugFlags.labels then some "kiln device" else none).isSome =
      config.debugFlags.labels := by
    cases config.debugFlags.labels <;> rfl
  rw [openOn]
  dsimp only
  generalize (if config.debugFlags.labels then some "kiln device" else none) = label at hlabel ⊢
  -- The calls as they come, each after a check of what the machine has.
  have hinstance : r.Logs (GpuEvent.Labelled config.debugFlags.labels)
      (r.emit [.createInstance (instanceFlags config.debugFlags) true]) :=
    .single rfl (GpuEvent.labelled_of_none rfl)
  have hunlabelled : ∀ e ∈ [.createSurface, .requestAdapter init.power true false],
      GpuEvent.Labelled config.debugFlags.labels e := by
    simp [GpuEvent.Labelled, GpuEvent.label?]
  have hrequested : ∀ e ∈ [.requestDevice label true true "Performance" "Off"],
      GpuEvent.Labelled config.debugFlags.labels e :=
    List.forall_mem_singleton.mpr (GpuEvent.labelled_of_some rfl hlabel)
  have hadapter := hinstance.emit hunlabelled
  have hdevice := hadapter.emit hrequested
  split
  · rename_i d hok
    split_ifs at hok
    split at hok
    · cases hok
    · obtain rfl := Except.ok.inj hok
      obtain ⟨hassemble, hlabels⟩ := labels_assemble config init
        (((r.emit [.createInstance (instanceFlags config.debugFlags) true]).emit
          [.createSurface, .requestAdapter init.power true false]).emit
            [.requestDevice label true true "Performance" "Off"])
      exact ⟨hdevice.trans hassemble, hlabels⟩
  · rename_i fault r' herror
    split_ifs at herror
    · cases herror
      exact .of_eq rfl
    · cases herror
      exact hinstance
    · cases herror
      exact hadapter
    · cases herror
      exact hdevice
    · split at herror
      · cases herror
        exact hdevice
      · cases herror

end GpuDevice

variable {config : Config} {ui : UiThread} {script : GpuScript} {init : GpuInit}
  {world world' : Recorder}

/-- What opens a context labels what it creates where labels are wanted. -/
lemma Context.labels_of_open {c : GpuContext}
    (h : Context.openWith config ui (GpuDevice.factory script init) world = .ok c) :
    (∃ d, c = .ofDevice config ui d) ∧ c.device.labels = config.debugFlags.labels ∧
      world.Logs (GpuEvent.Labelled config.debugFlags.labels) c.device.recorder := by
  obtain ⟨-, -, d, d', hbuild, hresize, rfl⟩ := openWith_ok h
  have hopen := GpuDevice.labels_openOn config init (world.install script)
  change GpuDevice.openOn config init (world.install script) = .ok d at hbuild
  rw [hbuild] at hopen
  have htargets := d.labels_resizeTargets config.width.toNat config.height.toNat
  change GpuDevice.resizeTargets config.width.toNat config.height.toNat d = (.ok (), d') at hresize
  rw [hresize] at htargets
  have hlogs := htargets.recorder
  rw [hopen.2] at hlogs
  exact ⟨⟨d', rfl⟩, htargets.labels.trans hopen.2, .trans (.of_eq rfl) (hopen.1.trans hlogs)⟩

/-- So does what fails to open one. -/
lemma Context.logs_of_open_error {fault : Fault}
    (h : (Context.openWith config ui (GpuDevice.factory script init) world :
      Except _ GpuContext) = .error (fault, world')) :
    world.Logs (GpuEvent.Labelled config.debugFlags.labels) world' := by
  have hopen := GpuDevice.labels_openOn config init (world.install script)
  have hinstall : world.Logs (GpuEvent.Labelled config.debugFlags.labels)
      (world.install script) := .of_eq rfl
  rw [openWith] at h
  split at h
  · cases h
    exact .of_eq rfl
  · cases ui with
    | stopped =>
      cases h
      exact .of_eq rfl
    | dropping =>
      cases h
      exact .of_eq rfl
    | running name =>
      simp only [UiThread.run, GpuDevice.factory] at h
      split at h
      · cases h
        exact .of_eq rfl
      · rename_i hbuild
        cases h
        rw [Except.ok.inj hbuild] at hopen
        exact hinstall.trans hopen
      · rename_i d hbuild
        rw [Except.ok.inj hbuild] at hopen
        have htargets := d.labels_resizeTargets config.width.toNat config.height.toNat
        split at h
        · cases h
        · rename_i d' hresize
          rw [show (GpuDevice.resizeTargets config.width.toNat config.height.toNat d).2 = d' from
            congrArg Prod.snd hresize] at htargets
          have hlogs := (htargets.trans d'.labels_dropFrame).recorder
          rw [hopen.2] at hlogs
          cases h
          exact hinstall.trans (hopen.1.trans hlogs)

/-! ### Runs -/

/-- **Labels follow their flag, but for the buffer of the staging ring.** Take any run of a context.
On every kind of device all buffers are asked for with a label where the flag is set and without one
where it is not, but for the buffer of the staging ring: it is asked for with its label whether the
flag is set or not. So all buffers are asked for as the flag says exactly where the flag is set, or
no update of the run goes through the ring.

On a graphics machine everything that is created while a context is opened, also where that fails,
has a label where the flag is set and none where it is not. So has everything that is created in a
run, but for the buffer of the ring. There too all is as the flag says exactly where the flag is set
or no update goes through the ring. -/
theorem labels_follow_flag (config : Config) (ui : UiThread) :
    (∀ {δ α P D : Type} [Device δ P D] [Adjustable δ α] (d : δ) (steps : List (Step α)),
      let c₀ : Context δ P D := .ofDevice config ui d
      (∀ e ∈ Step.trace steps c₀, ∀ label, e.request.label? = some label →
        label.isSome = config.debugFlags.labels ∨
          (Step.Staged steps c₀ ∧ label = some StagingRing.label)) ∧
      ((∀ e ∈ Step.trace steps c₀, ∀ label, e.request.label? = some label →
        label.isSome = config.debugFlags.labels) ↔
          config.debugFlags.labels = true ∨ ¬ Step.Staged steps c₀)) ∧
    ∀ {script : GpuScript} {init : GpuInit} {world : Recorder},
      let opened : Except (Fault × Recorder) GpuContext :=
        Context.openWith config ui (GpuDevice.factory script init) world
      let labelled : GpuEvent → Prop := GpuEvent.Labelled config.debugFlags.labels
      (∀ fault world', opened = .error (fault, world') → world.Logs labelled world') ∧
      ∀ c₀, opened = .ok c₀ →
        world.Logs labelled c₀.device.recorder ∧
        ∀ steps : List (Step MachineAnswers),
          let log := (Step.run steps c₀).device.recorder
          world.Logs (fun e => labelled e ∨ (Step.Staged steps c₀ ∧ e.IsStaging)) log ∧
          ((world.Logs labelled log ∧
            ∀ e ∈ Step.trace steps c₀, ∀ label, e.request.label? = some label →
              label.isSome = config.debugFlags.labels) ↔
                config.debugFlags.labels = true ∨ ¬ Step.Staged steps c₀) := by
  refine ⟨fun d steps => ⟨?_, ?_⟩, fun {script init world} => ⟨?_, ?_⟩⟩
  · exact Step.names_trace steps _
  · exact Step.names_trace_iff steps config ui d
  · intro fault world' hfailed
    exact Context.logs_of_open_error hfailed
  · intro c₀ hopen
    obtain ⟨⟨d, rfl⟩, hlabels, hlogs⟩ := Context.labels_of_open hopen
    refine ⟨hlogs, fun steps => ⟨?_, ?_⟩⟩
    · refine (hlogs.mono fun _ => .inl).trans (Step.run_logs (fun _ => .inl) steps hlabels ?_)
      intro e he label hlabel number size
      rcases Step.names_trace steps _ e he label hlabel with hsome | ⟨hstaged, hlabel⟩
      · exact .inl (GpuEvent.labelled_of_some rfl hsome)
      · exact .inr ⟨hstaged, hlabel⟩
    · rw [← Step.names_trace_iff]
      refine ⟨fun h => h.2, fun hnames => ⟨?_, hnames⟩⟩
      refine hlogs.trans (Step.run_logs (fun _ => id) steps hlabels ?_)
      intro e he label hlabel number size
      exact GpuEvent.labelled_of_some rfl (hnames e he label hlabel)

/-- A changing buffer of four bytes, and an update of all of them. -/
def stagedRun {α : Type} : List (Step α) :=
  [.perform (.createBuffer 1 4 none), .perform (.updateBuffer .first 0 (some #[9, 0, 0, 0]) 4)]

/-- The update goes through the staging ring where the buffer is live. -/
lemma staged_stagedRun {δ α P D : Type} [Device δ P D] [Adjustable δ α] {c : Context δ P D}
    (h : ((Op.apply (.createBuffer 1 4 none) c).2.buffers.records.get? .first).map
      (fun r => (r.usage, r.size)) = some (.changing, 4)) :
    Step.Staged (stagedRun : List (Step α)) c := by
  obtain ⟨r, hlive, hr⟩ := Option.map_eq_some_iff.mp h
  obtain ⟨husage, hsize⟩ := Prod.mk.inj hr
  refine ⟨[.perform (.createBuffer 1 4 none)], _, [], rfl, .update ⟨?_, by decide, ?_⟩⟩
  · refine ⟨r, hlive, le_rfl, by decide, ?_, .inr ⟨_, rfl, by decide⟩⟩
    rw [hsize]
    decide
  · intro r' hr'
    rw [← Option.some.inj (hlive.symm.trans hr'), husage]

/-- On both kinds of devices a buffer is asked for with a label where labels are not wanted. -/
theorem staging_ring_labelled :
    ({} : Config).debugFlags.labels = false ∧
      (∃ e ∈ Step.trace stagedRun (.ofDevice {} .stopped {} : HostContext FaultyDevice),
        e.request.label? = some (some "kiln staging ring")) ∧
      ∃ c₀ : GpuContext,
        Context.openWith {} (.running "main") (GpuDevice.factory {} {}) {} = .ok c₀ ∧
        ∃ e ∈ Step.trace stagedRun c₀, e.request.label? = some (some "kiln staging ring") := by
  have hrun : (Context.openWith {} (.running "main") (GpuDevice.factory {} {})
      {}).toOption.map (fun c : GpuContext =>
        ((Op.apply (.createBuffer 1 4 none) c).2.buffers.records.get? .first).map
          fun r => (r.usage, r.size)) = some (some (.changing, 4)) := by
    decide +kernel
  obtain ⟨c₀, hopen⟩ : ∃ c₀ : GpuContext,
      Context.openWith {} (.running "main") (GpuDevice.factory {} {}) {} = .ok c₀ := ⟨_, rfl⟩
  rw [hopen] at hrun
  obtain ⟨⟨d, rfl⟩, -⟩ := Context.labels_of_open hopen
  exact ⟨rfl, Step.asks_of_staged (staged_stagedRun (by decide +kernel)) rfl, _, hopen,
    Step.asks_of_staged (staged_stagedRun (Option.some.inj hrun)) rfl⟩

/-- Without the flag that run does not ask for all buffers without a label. With the flag everything
is labelled, on a machine without a device as far as opening gets. -/
theorem labels_follow_flag_stagedRun :
    (¬ ∀ e ∈ Step.trace stagedRun (.ofDevice {} .stopped {} : HostContext FaultyDevice),
      ∀ label, e.request.label? = some label → label.isSome = false) ∧
    (∃ fault world', (Context.openWith { debugFlags := ⟨false, true⟩ } (.running "main")
        (GpuDevice.factory { hasDevice := false } {}) {} : Except _ GpuContext) =
          .error (fault, world') ∧
      Recorder.Logs (GpuEvent.Labelled true) {} world') ∧
    ∃ c₀ : GpuContext, Context.openWith { debugFlags := ⟨false, true⟩ } (.running "main")
        (GpuDevice.factory {} {}) {} = .ok c₀ ∧
      Recorder.Logs (GpuEvent.Labelled true) {} (Step.run stagedRun c₀).device.recorder := by
  refine ⟨fun hnames => ?_, ?_, ?_⟩
  · have hstaged : Step.Staged stagedRun (.ofDevice {} .stopped {} : HostContext FaultyDevice) :=
      staged_stagedRun (by decide +kernel)
    rcases ((labels_follow_flag {} .stopped).1 ({} : FaultyDevice) stagedRun).2.mp hnames with
      hflag | hquiet
    · cases hflag
    · exact hquiet hstaged
  · obtain ⟨fault, world', hfailed⟩ : ∃ fault world', (Context.openWith
        { debugFlags := ⟨false, true⟩ } (.running "main")
        (GpuDevice.factory { hasDevice := false } {}) {} : Except _ GpuContext) =
          .error (fault, world') := ⟨_, _, rfl⟩
    obtain ⟨onFailure, -⟩ := (labels_follow_flag { debugFlags := ⟨false, true⟩ }
      (.running "main")).2
    exact ⟨fault, world', hfailed, onFailure fault world' hfailed⟩
  · obtain ⟨c₀, hopen⟩ : ∃ c₀ : GpuContext, Context.openWith { debugFlags := ⟨false, true⟩ }
        (.running "main") (GpuDevice.factory {} {}) {} = .ok c₀ := ⟨_, rfl⟩
    obtain ⟨-, onOpen⟩ := (labels_follow_flag { debugFlags := ⟨false, true⟩ } (.running "main")).2
    exact ⟨c₀, hopen, (((onOpen c₀ hopen).2 stagedRun).2.mpr (.inl rfl)).1⟩

end RenderBridge
