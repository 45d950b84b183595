import RenderBridge.Proofs.Gpu.Faithful
/-!
The textures of the presentation surface, from acquiring to giving back.

* `heldAfter`: the texture that is held after some calls on the machine.
* `SurfaceCalls`: the protocol of the surface. A texture is acquired, and the surface configured,
  while none is held; only the one that is held is shown or given up.
* `GpuDevice.orderly_perform`: **every call to the device keeps the protocol** but for the one that
  tells the surface its new geometry.
* `Op.handlesSurface`: so does every operation but a resize while a texture is held; that one
  configures the surface first and gives the texture up right after.
* `surface_configured`: **in every run** the surface is configured with no texture held, but for
  those resizes.
-/

set_option autoImplicit false

namespace RenderBridge

/-! ### The protocol -/

/-- A call on the machine that has to do with the textures of the surface. -/
def GpuEvent.IsSurface : GpuEvent → Bool
  | acquire _ | present _ | discard _ | configure .. => true
  | _ => false

/-- The texture of the surface that is held after a call. -/
def GpuEvent.held (frame : Option ℕ) : GpuEvent → Option ℕ
  | acquire number => some number
  | present number | discard number => if frame = some number then none else frame
  | _ => frame

/-- The texture of the surface that is held after some calls. -/
def heldAfter (frame : Option ℕ) (events : List GpuEvent) : Option ℕ :=
  events.foldl GpuEvent.held frame

/-- Calls that keep the protocol of the surface, from the texture that is held before them to the
one that is held after. -/
inductive SurfaceCalls : Option ℕ → List GpuEvent → Option ℕ → Prop
  | nil (frame : Option ℕ) : SurfaceCalls frame [] frame
  | acquire {number : ℕ} {events : List GpuEvent} {frame : Option ℕ}
      (rest : SurfaceCalls (some number) events frame) :
      SurfaceCalls none (.acquire number :: events) frame
  | present {number : ℕ} {events : List GpuEvent} {frame : Option ℕ}
      (rest : SurfaceCalls none events frame) :
      SurfaceCalls (some number) (.present number :: events) frame
  | discard {number : ℕ} {events : List GpuEvent} {frame : Option ℕ}
      (rest : SurfaceCalls none events frame) :
      SurfaceCalls (some number) (.discard number :: events) frame
  | configure {usage : UsageBits} {config : SurfaceConfig} {formats : ℕ}
      {events : List GpuEvent} {frame : Option ℕ} (rest : SurfaceCalls none events frame) :
      SurfaceCalls none (.configure usage config formats :: events) frame
  | other {event : GpuEvent} {held frame : Option ℕ} {events : List GpuEvent}
      (other : event.IsSurface = false) (rest : SurfaceCalls held events frame) :
      SurfaceCalls held (event :: events) frame

lemma GpuEvent.not_isSurface_of_isPassCall {event : GpuEvent} (h : event.IsPassCall) :
    event.IsSurface = false := by
  cases event with
  | acquire => cases h
  | present => cases h
  | discard => cases h
  | configure => cases h
  | _ => rfl

lemma GpuEvent.held_of_other {event : GpuEvent} (h : event.IsSurface = false)
    (frame : Option ℕ) : event.held frame = frame := by
  cases event with
  | acquire => cases h
  | present => cases h
  | discard => cases h
  | _ => rfl

namespace SurfaceCalls

variable {held frame frame' : Option ℕ} {events events' : List GpuEvent}

lemma of_other (h : ∀ e ∈ events, e.IsSurface = false) : SurfaceCalls frame events frame := by
  induction events with
  | nil => exact .nil frame
  | cons e events ih =>
    exact .other (h e List.mem_cons_self) (ih fun e he => h e (List.mem_cons_of_mem _ he))

lemma append (h : SurfaceCalls held events frame) (h' : SurfaceCalls frame events' frame') :
    SurfaceCalls held (events ++ events') frame' := by
  induction h with
  | nil => exact h'
  | acquire _ ih => exact .acquire (ih h')
  | present _ ih => exact .present (ih h')
  | discard _ ih => exact .discard (ih h')
  | configure _ ih => exact .configure (ih h')
  | other hother _ ih => exact .other hother (ih h')

/-- The protocol says what is held. -/
lemma heldAfter_eq (h : SurfaceCalls held events frame) : heldAfter held events = frame := by
  induction h with
  | nil => rfl
  | acquire _ ih => exact ih
  | present _ ih =>
    rw [heldAfter, List.foldl_cons, GpuEvent.held, if_pos rfl]
    exact ih
  | discard _ ih =>
    rw [heldAfter, List.foldl_cons, GpuEvent.held, if_pos rfl]
    exact ih
  | configure _ ih => exact ih
  | other hother _ ih =>
    rw [heldAfter, List.foldl_cons, GpuEvent.held_of_other hother]
    exact ih

/-- A later part of calls that keep the protocol keeps it too. -/
lemma of_append {before : List GpuEvent} (h : SurfaceCalls held (before ++ events) frame) :
    SurfaceCalls (heldAfter held before) events frame := by
  induction before generalizing held with
  | nil => exact h
  | cons e before ih =>
    rw [heldAfter, List.foldl_cons]
    cases h with
    | acquire rest => exact ih rest
    | present rest =>
      rw [GpuEvent.held, if_pos rfl]
      exact ih rest
    | discard rest =>
      rw [GpuEvent.held, if_pos rfl]
      exact ih rest
    | configure rest => exact ih rest
    | other hother rest =>
      rw [GpuEvent.held_of_other hother]
      exact ih rest

/-- The surface is configured only while no texture is held. -/
lemma unheld_of_configure {before after : List GpuEvent} {usage : UsageBits}
    {config : SurfaceConfig} {formats : ℕ}
    (h : SurfaceCalls held (before ++ .configure usage config formats :: after) frame) :
    heldAfter held before = none := by
  have hrest := h.of_append
  generalize heldAfter held before = middle at hrest ⊢
  cases hrest with
  | configure => rfl
  | other hother => cases hother

end SurfaceCalls

/-! ### The device -/

namespace Recorder

/-- A machine on which calls were made that have nothing to do with the surface. -/
def Aside (r r' : Recorder) : Prop :=
  ∃ events, r'.log = r.log ++ events ∧ ∀ e ∈ events, e.IsSurface = false

lemma aside_createBuffer (r : Recorder) (label : Option String) (size : ℕ) :
    Aside r (r.createBuffer label size).2 := ⟨_, rfl, by simp [GpuEvent.IsSurface]⟩

lemma aside_createTexture (r : Recorder) (label : Option String) (width height : ℕ)
    (samples : UInt32) (format : TextureFormat) :
    Aside r (r.createTexture label width height samples format).2 :=
  ⟨_, rfl, by simp [GpuEvent.IsSurface]⟩

lemma aside_createEncoder (r : Recorder) (label : Option String) :
    Aside r (r.createEncoder label).2 := ⟨_, rfl, by simp [GpuEvent.IsSurface]⟩

lemma aside_createPipeline (r : Recorder) (label : Option String)
    (description : PipelineDescription) : Aside r (r.createPipeline label description).2 := by
  rw [createPipeline]
  dsimp only
  split <;> exact ⟨_, rfl, by simp [GpuEvent.IsSurface]⟩

/-- Asked for a texture, the machine gives one or says why it does not. -/
lemma acquire_cases (r : Recorder) :
    (∃ number r', r.acquire = (.ok number, r') ∧ r'.log = r.log ++ [.acquire number]) ∨
      (∃ status r', r.acquire = (.error status, r') ∧ Aside r r') := by
  rw [acquire]
  dsimp only
  split
  · exact .inl ⟨_, _, rfl, rfl⟩
  · exact .inr ⟨_, _, rfl, _, rfl, by simp [GpuEvent.IsSurface]⟩

end Recorder

namespace GpuDevice

/-- What was called between two states of a device keeps the protocol, and the device knows which
texture it holds. -/
def Orderly (d d' : GpuDevice) : Prop :=
  ∃ events, d'.recorder.log = d.recorder.log ++ events ∧ SurfaceCalls d.frame events d'.frame

variable {d d' d'' : GpuDevice}

namespace Orderly

lemma refl (d : GpuDevice) : Orderly d d := ⟨[], (List.append_nil _).symm, .nil _⟩

lemma trans (h : Orderly d d') (h' : Orderly d' d'') : Orderly d d'' := by
  obtain ⟨events, hlog, hcalls⟩ := h
  obtain ⟨events', hlog', hcalls'⟩ := h'
  exact ⟨events ++ events', by rw [hlog', hlog, List.append_assoc], hcalls.append hcalls'⟩

/-- The same texture is held, and the surface was left alone. -/
lemma of_aside (h : d.recorder.Aside d'.recorder) (hframe : d'.frame = d.frame) : Orderly d d' := by
  obtain ⟨events, hlog, hother⟩ := h
  exact ⟨events, hlog, by rw [hframe]; exact .of_other hother⟩

lemma of_recorder {r : Recorder} (h : d.recorder.Aside r) : Orderly d { d with recorder := r } :=
  of_aside h rfl

lemma emit (h : Orderly d d') {events : List GpuEvent}
    (hevents : ∀ e ∈ events, e.IsSurface = false) : Orderly d (d'.emit events) :=
  h.trans (of_recorder ⟨events, rfl, hevents⟩)

/-- The surface is configured while no texture is held. -/
lemma configureSurface (h : Orderly d d') (hframe : d'.frame = none) :
    Orderly d d'.configureSurface := by
  refine h.trans ⟨[.configure Recorder.attachmentUsage d'.surface.config 0], rfl, ?_⟩
  change SurfaceCalls d'.frame _ d'.frame
  rw [hframe]
  exact .configure (.nil none)

end Orderly

lemma orderly_realize (p : GpuPipeline) (q : GpuDepthStencil) (d : GpuDevice) :
    Orderly d (realize p q d).2 := by
  have hcreated := d.recorder.aside_createPipeline (d.label "kiln pipeline")
    (p.template.describe q.state)
  rw [realize]
  split
  · exact .refl d
  · split
    · rename_i hcall
      rw [hcall] at hcreated
      exact .of_aside hcreated rfl
    · rename_i hcall
      rw [hcall] at hcreated
      exact .of_recorder hcreated

lemma orderly_compilePipeline (key : PipelineKey) (layout : Option VertexLayout) (d : GpuDevice) :
    Orderly d (compilePipeline key layout d).2 := by
  rw [compilePipeline]
  split
  · exact .refl d
  · split
    · exact .refl d
    · rename_i template _
      have hrealize : Orderly d _ := orderly_realize ⟨d.templates + 1, template⟩
        defaultDepthStencil { d with templates := d.templates + 1 }
      dsimp only
      split
      · rename_i hcall
        rw [hcall] at hrealize
        exact hrealize
      · rename_i hcall
        rw [hcall] at hrealize
        exact hrealize

lemma orderly_createBuffer (size : ℕ) (label : Option String) (d : GpuDevice) :
    Orderly d (createBuffer size label d).2 := by
  rw [createBuffer]
  dsimp only
  split
  · exact .refl d
  · exact .of_recorder (d.recorder.aside_createBuffer label size)

lemma orderly_writeBuffer (buffer : BufferId) (offset : ℕ) (bytes : Bytes) (d : GpuDevice) :
    Orderly d (writeBuffer buffer offset bytes d).2 := by
  rw [writeBuffer]
  split
  · exact .refl d
  · exact .emit (.refl d) (by simp [GpuEvent.IsSurface])

lemma orderly_copyBuffer (source : BufferId) (sourceOffset : ℕ) (target : BufferId)
    (targetOffset length : ℕ) (d : GpuDevice) :
    Orderly d (copyBuffer source sourceOffset target targetOffset length d).2 := by
  rw [copyBuffer]
  split
  · exact .refl d
  · split
    · exact .refl d
    · exact .emit (.of_recorder (d.recorder.aside_createEncoder _)) (by simp [GpuEvent.IsSurface])

/-- Giving a texture up ends with none held. -/
lemma orderly_dropFrame (d : GpuDevice) : Orderly d d.dropFrame := by
  rw [dropFrame]
  split
  · rename_i frame hframe
    refine ⟨[.discard frame], rfl, ?_⟩
    rw [hframe]
    exact .discard (.nil none)
  · exact .refl d

/-- While no texture is held, one is acquired, or the surface is configured. -/
lemma orderly_acquire (hframe : d.frame = none) : Orderly d d.acquire.2 := by
  rw [acquire]
  split
  · exact .refl d
  · rcases d.recorder.acquire_cases with ⟨number, r, hcall, hlog⟩ | ⟨status, r, hcall, haside⟩
    · rw [hcall]
      refine .emit ⟨[.acquire number], hlog, ?_⟩ (by simp [GpuEvent.IsSurface])
      rw [hframe]
      exact .acquire (.nil _)
    · rw [hcall]
      have hfailed : Orderly d { d with recorder := r } := .of_recorder haside
      cases status with
      | lost => exact hfailed.configureSurface hframe
      | outdated => exact hfailed.configureSurface hframe
      | _ => exact hfailed

lemma orderly_createSampledView (width height : ℕ) (d : GpuDevice) :
    Orderly d (createSampledView width height d).2 := by
  rw [createSampledView]
  split
  · exact .emit (.of_recorder (d.recorder.aside_createTexture ..)) (by simp [GpuEvent.IsSurface])
  · exact .refl d

/-- Targets are made anew after the held texture is given up. -/
lemma orderly_resizeTargets (width height : ℕ) (d : GpuDevice) :
    Orderly d (resizeTargets width height d).2 := by
  rw [resizeTargets]
  split
  · exact .refl d
  · have hdepth := d.orderly_dropFrame.trans (.of_recorder (d.dropFrame.recorder.aside_createTexture
      (d.dropFrame.label "kiln depth-stencil") width height d.dropFrame.sampleCount
        depthStencilFormat))
    refine .emit ((hdepth.trans (orderly_createSampledView width height _)).trans ?_)
      (by simp [GpuEvent.IsSurface])
    exact .of_aside ⟨[], (List.append_nil _).symm, List.forall_mem_nil _⟩ rfl

lemma orderly_ensureEncoder (d : GpuDevice) : Orderly d d.ensureEncoder.2 := by
  rw [ensureEncoder]
  split
  · exact .refl d
  · exact .of_aside (d.recorder.aside_createEncoder _) rfl

/-- A texture is asked for only where none is held. -/
lemma orderly_ensureFrame (d : GpuDevice) : Orderly d d.ensureFrame.2 := by
  rw [ensureFrame]
  split
  · exact d.orderly_ensureEncoder
  · rename_i hframe
    have hacquire := orderly_acquire hframe
    split
    · rename_i hcall
      rw [hcall] at hacquire
      exact hacquire
    · rename_i hcall
      rw [hcall] at hacquire
      exact hacquire.trans (orderly_ensureEncoder _)

lemma orderly_beginPass (color : Option Color) (d : GpuDevice) :
    Orderly d (d.beginPass color).2 := by
  have hframe := d.orderly_ensureFrame
  rw [beginPass]
  split
  · rename_i hcall
    rw [hcall] at hframe
    exact hframe
  · rename_i hcall
    rw [hcall] at hframe
    dsimp only
    split
    · exact hframe
    · exact hframe.emit (by simp [GpuEvent.IsSurface])

lemma orderly_encodePass {P D : Type} (config : DrawConfig P D) (call : DrawCall) (pipeline : ℕ)
    (targets : FrameTargets) (d : GpuDevice) :
    Orderly d (encodePass config call pipeline targets d).2 := by
  have hpass := d.orderly_beginPass none
  rw [encodePass]
  split
  · rename_i hcall
    rw [hcall] at hpass
    exact hpass
  · rename_i d₁ hcall
    rw [hcall] at hpass
    have hset : Orderly d (d₁.emit [.setPipeline pipeline]) :=
      hpass.emit (by simp [GpuEvent.IsSurface])
    dsimp only
    split
    · exact hset
    · rename_i scissor hscissor
      exact hset.emit fun e he =>
        GpuEvent.not_isSurface_of_isPassCall (passEvents_isPassCall hscissor call _ e he)

lemma orderly_encodeDraw (config : DrawConfig GpuPipeline GpuDepthStencil) (call : DrawCall)
    (d : GpuDevice) : Orderly d (encodeDraw config call d).2 := by
  rw [encodeDraw]
  split
  · exact .refl d
  · split
    · exact .refl d
    · rename_i targets _
      have hrealize := orderly_realize config.pipeline config.depthStencil d
      split
      · rename_i hcall
        rw [hcall] at hrealize
        exact hrealize
      · rename_i hcall
        rw [hcall] at hrealize
        exact hrealize.trans (orderly_encodePass config call _ targets _)

lemma orderly_submit (d : GpuDevice) : Orderly d d.submit := by
  rw [submit]
  split
  · exact .of_aside ⟨_, rfl, by simp [GpuEvent.IsSurface]⟩ rfl
  · exact .emit (.refl d) (by simp [GpuEvent.IsSurface])

/-- Only the held texture is shown. -/
lemma orderly_present (d : GpuDevice) : Orderly d d.present := by
  rw [present]
  split
  · rename_i frame hframe
    refine ⟨[.present frame], rfl, ?_⟩
    rw [hframe]
    exact .present (.nil none)
  · exact .refl d

/-! ### Resizing -/

/-- The new geometry is configured at once, or is not taken; the held texture stays. -/
lemma applyGeometry_cases (geometry : SurfaceGeometry) (d : GpuDevice) :
    d.applyGeometry geometry = d ∨
      ((d.applyGeometry geometry).frame = d.frame ∧ ∃ usage config formats,
        (d.applyGeometry geometry).recorder.log =
          d.recorder.log ++ [.configure usage config formats]) := by
  rw [applyGeometry]
  split
  · exact .inl rfl
  · exact .inr ⟨rfl, _, _, _, rfl⟩

lemma dropFrame_frame (d : GpuDevice) : d.dropFrame.frame = none := by
  rw [dropFrame]
  split
  · rfl
  · assumption

lemma createSampledView_frame (width height : ℕ) (d : GpuDevice) :
    (createSampledView width height d).2.frame = d.frame := by
  rw [createSampledView]
  split <;> rfl

/-- No texture is held once the targets are made anew. -/
lemma resizeTargets_frame {width height : ℕ} {d d' : GpuDevice}
    (h : resizeTargets width height d = (.ok (), d')) : d'.frame = none := by
  rw [resizeTargets] at h
  split at h
  · cases h
  · obtain rfl : _ = d' := congrArg Prod.snd h
    change (createSampledView width height _).2.frame = none
    rw [createSampledView_frame]
    exact d.dropFrame_frame

/-- Targets are made as if the held texture had been given up before. -/
lemma resizeTargets_dropFrame {width height : ℕ} (hsize : ¬ (width = 0 ∨ height = 0))
    (d : GpuDevice) : resizeTargets width height d = resizeTargets width height d.dropFrame := by
  have hdropped : d.dropFrame.dropFrame = d.dropFrame := by
    rw [dropFrame.eq_def d.dropFrame, d.dropFrame_frame]
  rw [resizeTargets, resizeTargets, if_neg hsize, if_neg hsize, hdropped]

/-- Where the targets are made anew, the held texture is given up first. -/
lemma resizeTargets_held {width height number : ℕ} (hsize : ¬ (width = 0 ∨ height = 0))
    {d : GpuDevice} (hframe : d.frame = some number) :
    ∃ rest, (resizeTargets width height d).2.recorder.log =
        d.recorder.log ++ .discard number :: rest ∧
      SurfaceCalls none rest (resizeTargets width height d).2.frame := by
  have hdropped : d.dropFrame = { d with frame := none }.emit [.discard number] := by
    rw [dropFrame, hframe]
  obtain ⟨rest, hlog, hcalls⟩ := orderly_resizeTargets width height d.dropFrame
  rw [resizeTargets_dropFrame hsize]
  refine ⟨rest, ?_, ?_⟩
  · rw [hlog, hdropped]
    exact List.append_assoc ..
  · rw [hdropped] at hcalls ⊢
    exact hcalls

/-- Every call to the device keeps the protocol, but for the one that tells the surface its new
geometry. -/
theorem orderly_perform (request : Call) (hgeometry : request.kind ≠ .surface) (d : GpuDevice) :
    Orderly d (request.perform d).2 := by
  cases request with
  | compilePipeline key layout => exact d.orderly_compilePipeline key layout
  | compileDepthStencil key => exact .refl d
  | createLayout layout =>
    change Orderly d (createLayout layout d).2
    rw [createLayout]
    split <;> exact .refl d
  | createBuffer size label => exact d.orderly_createBuffer size label
  | releaseBuffer id => exact .refl d
  | writeBuffer id offset bytes => exact d.orderly_writeBuffer id offset bytes
  | copyBuffer source sourceOffset target targetOffset length =>
    exact d.orderly_copyBuffer source sourceOffset target targetOffset length
  | applyGeometry geometry thread => exact absurd rfl hgeometry
  | detachSurface thread => exact absurd rfl hgeometry
  | resizeTargets width height => exact d.orderly_resizeTargets width height
  | clear color => exact d.orderly_beginPass (some color)
  | encodeDraw config call => exact d.orderly_encodeDraw config call
  | submit => exact d.orderly_submit
  | present => exact d.orderly_present

end GpuDevice

/-! ### Operations -/

/-- Calls one after the other, none of which tells the surface its geometry, keep the protocol. -/
lemma Linked.surfaceCalls {d d' : GpuDevice} {es : List GpuExchange} (h : Linked d es d')
    (hkinds : ∀ e ∈ es, e.request.kind ≠ .surface) :
    d'.recorder.log = d.recorder.log ++ es.flatMap (·.events) ∧
      SurfaceCalls d.frame (es.flatMap (·.events)) d'.frame := by
  induction es generalizing d with
  | nil =>
    obtain rfl : d = d' := h
    exact ⟨(List.append_nil _).symm, .nil _⟩
  | cons e es ih =>
    obtain ⟨he, hrest⟩ := h
    obtain ⟨events, hlog, hcalls⟩ :=
      GpuDevice.orderly_perform e.request (hkinds e List.mem_cons_self) d
    have hafter : (e.request.perform d).2 = e.after := (congrArg Exchange.after he).symm
    have hbefore : e.before = d := congrArg Exchange.before he
    rw [hafter] at hlog hcalls
    have hevents : e.events = events := Exchange.events_of_log (by rw [hbefore]; exact hlog)
    obtain ⟨hlog', hcalls'⟩ := ih hrest fun e he => hkinds e (List.mem_cons_of_mem _ he)
    rw [List.flatMap_cons, hevents]
    exact ⟨by rw [hlog', hlog, List.append_assoc], hcalls.append hcalls'⟩

/-- A resize leaves the device, or tells the surface its geometry and makes the targets anew. -/
lemma Context.resize_device {δ P D : Type} [Device δ P D] (c : Context δ P D) (width height : ℤ)
    (scale : Single) (fullscreen : Bool) :
    (c.resize width height scale fullscreen).2.device = c.device ∨
      ∃ geometry name, ¬ (width.toNat = 0 ∨ height.toNat = 0) ∧
        (c.resize width height scale fullscreen).2.device =
          (Device.resizeTargets width.toNat height.toNat
            (Device.applyGeometry geometry name c.device)).2 := by
  rcases c.resize_cases width height scale fullscreen with ⟨fault, hcall⟩ |
      ⟨geometry, name, hwidth, hheight, -, -, ⟨fault, d, htargets, hcall⟩ | ⟨d, htargets, hcall⟩⟩
  · rw [hcall]
    exact .inl rfl
  · rw [hcall]
    exact .inr ⟨geometry, name, by omega, by rw [htargets]⟩
  · rw [hcall]
    exact .inr ⟨geometry, name, by omega, by rw [htargets]⟩

/-- The calls of a resize: none, or these two. -/
lemma Op.exchanges_resize {δ P D : Type} [Device δ P D] (c : Context δ P D) (width height : ℤ)
    (scale : Single) (fullscreen : Bool) :
    (exchanges (.resize width height scale fullscreen) c = [] ∧
        (apply (.resize width height scale fullscreen) c).2.device = c.device) ∨
      ∃ geometry name, ¬ (width.toNat = 0 ∨ height.toNat = 0) ∧
        exchanges (.resize width height scale fullscreen) c =
          [.of (.applyGeometry geometry name) c.device,
            .of (.resizeTargets width.toNat height.toNat)
              (Device.applyGeometry geometry name c.device)] ∧
        (apply (.resize width height scale fullscreen) c).2.device =
          (Device.resizeTargets width.toNat height.toNat
            (Device.applyGeometry geometry name c.device)).2 := by
  have htraced : ((c.traced []).resize width height scale fullscreen).2.device =
      ⟨(apply (.resize width height scale fullscreen) c).2.device,
        exchanges (.resize width height scale fullscreen) c⟩ := by
    have happly := congrArg (fun out => out.2.device)
      (apply_traced (.resize width height scale fullscreen) c [])
    dsimp only at happly
    rw [apply, replyWith_snd] at happly
    exact happly
  rcases (c.traced []).resize_device width height scale fullscreen with
    hsame | ⟨geometry, name, hsize, hcalls⟩
  · have h := htraced.symm.trans hsame
    exact .inl ⟨congrArg Traced.exchanges h, congrArg Traced.device h⟩
  · have h := htraced.symm.trans hcalls
    exact .inr ⟨geometry, name, hsize, congrArg Traced.exchanges h, congrArg Traced.device h⟩

/-- What an operation does to the textures of the surface: it keeps the protocol, or it is a resize
while a texture is held. That one configures the surface and gives the texture up right after. -/
inductive Op.HandlesSurface (op : Op) (held : Option ℕ) (events : List GpuEvent)
    (frame : Option ℕ) : Prop
  | orderly (calls : SurfaceCalls held events frame)
  | resized {width height : ℤ} {scale : Single} {fullscreen : Bool} {number : ℕ}
      {usage : UsageBits} {config : SurfaceConfig} {formats : ℕ} {rest : List GpuEvent}
      (op_eq : op = .resize width height scale fullscreen) (held_eq : held = some number)
      (events_eq : events = .configure usage config formats :: .discard number :: rest)
      (calls : SurfaceCalls none rest frame)

/-- A resize keeps the protocol where no texture is held. -/
lemma Op.handlesSurface_resize (c : GpuContext) (width height : ℤ) (scale : Single)
    (fullscreen : Bool) :
    let op : Op := .resize width height scale fullscreen
    (op.apply c).2.device.recorder.log =
        c.device.recorder.log ++ (op.exchanges c).flatMap (·.events) ∧
      op.HandlesSurface c.device.frame ((op.exchanges c).flatMap (·.events))
        (op.apply c).2.device.frame := by
  intro op
  rcases exchanges_resize c width height scale fullscreen with
    ⟨hexchanges, hdevice⟩ | ⟨geometry, name, hsize, hexchanges, hdevice⟩
  · rw [hexchanges, hdevice]
    exact ⟨(List.append_nil _).symm, .orderly (.nil _)⟩
  · rw [hexchanges, hdevice, List.flatMap_cons, List.flatMap_cons, List.flatMap_nil,
      List.append_nil]
    change (GpuDevice.resizeTargets width.toNat height.toNat
      (c.device.applyGeometry geometry)).2.recorder.log = _ ∧ HandlesSurface _ _ _
        (GpuDevice.resizeTargets width.toNat height.toNat (c.device.applyGeometry geometry)).2.frame
    -- The second call starts from the device that the first one leaves.
    have hsecond : ∀ events, (GpuDevice.resizeTargets width.toNat height.toNat
          (c.device.applyGeometry geometry)).2.recorder.log =
            (c.device.applyGeometry geometry).recorder.log ++ events →
        Exchange.events (.of (.resizeTargets width.toNat height.toNat)
          (Device.applyGeometry geometry name c.device)) = events :=
      fun events hlog => Exchange.events_of_log hlog
    have hfirst : ∀ events, (c.device.applyGeometry geometry).recorder.log =
          c.device.recorder.log ++ events →
        Exchange.events (.of (.applyGeometry geometry name) c.device) = events :=
      fun events hlog => Exchange.events_of_log hlog
    rcases GpuDevice.applyGeometry_cases geometry c.device with
      hsame | ⟨hframe, usage, config, formats, hconfigured⟩
    · rw [hfirst [] (by rw [hsame, List.append_nil])]
      obtain ⟨events, hlog, hcalls⟩ := GpuDevice.orderly_resizeTargets width.toNat height.toNat
        (c.device.applyGeometry geometry)
      rw [hsecond events hlog, hlog]
      rw [hsame] at hcalls ⊢
      exact ⟨rfl, .orderly hcalls⟩
    · rw [hfirst _ hconfigured]
      cases hheld : c.device.frame with
      | none =>
        obtain ⟨events, hlog, hcalls⟩ := GpuDevice.orderly_resizeTargets width.toNat height.toNat
          (c.device.applyGeometry geometry)
        rw [hframe, hheld] at hcalls
        rw [hsecond events hlog, hlog, hconfigured, List.append_assoc]
        exact ⟨rfl, .orderly (.configure hcalls)⟩
      | some number =>
        obtain ⟨rest, hlog, hcalls⟩ := GpuDevice.resizeTargets_held hsize (hframe.trans hheld)
        rw [hsecond _ hlog, hlog, hconfigured, List.append_assoc]
        exact ⟨rfl, .resized rfl rfl rfl hcalls⟩

/-- Every operation handles the surface so. -/
theorem Op.handlesSurface (op : Op) (c : GpuContext) :
    (op.apply c).2.device.recorder.log =
        c.device.recorder.log ++ (op.exchanges c).flatMap (·.events) ∧
      op.HandlesSurface c.device.frame ((op.exchanges c).flatMap (·.events))
        (op.apply c).2.device.frame := by
  obtain ⟨hlinked, hkinds⟩ := op.linked_exchanges c
  by_cases hsurface : .surface ∈ op.calls
  · cases op with
    | resize width height scale fullscreen =>
      exact handlesSurface_resize c width height scale fullscreen
    | _ => simp [calls] at hsurface
  · obtain ⟨hlog, hcalls⟩ := hlinked.surfaceCalls fun e he heq => hsurface (heq ▸ hkinds e he)
    exact ⟨hlog, .orderly hcalls⟩

namespace Op.HandlesSurface

variable {op : Op} {held frame : Option ℕ} {events : List GpuEvent}

/-- Either way the device knows which texture it holds. -/
lemma heldAfter_eq (h : op.HandlesSurface held events frame) : heldAfter held events = frame := by
  cases h with
  | orderly calls => exact calls.heldAfter_eq
  | @resized _ _ _ _ number _ _ _ _ _ held_eq events_eq calls =>
    rw [held_eq, events_eq, heldAfter, List.foldl_cons, List.foldl_cons]
    change heldAfter (if some number = some number then none else some number) _ = frame
    rw [if_pos rfl]
    exact calls.heldAfter_eq

/-- No texture is held where the surface is configured, but in the first call of a resize; the next
call gives that texture up. -/
lemma configured (h : op.HandlesSurface held events frame) {before after : List GpuEvent}
    {usage : UsageBits} {config : SurfaceConfig} {formats : ℕ}
    (hevents : events = before ++ .configure usage config formats :: after) :
    heldAfter held before = none ∨
      ∃ width height scale fullscreen number rest, op = .resize width height scale fullscreen ∧
        before = [] ∧ held = some number ∧ after = .discard number :: rest := by
  cases h with
  | orderly calls =>
    rw [hevents] at calls
    exact .inl calls.unheld_of_configure
  | @resized width height scale fullscreen number _ _ _ rest op_eq held_eq events_eq calls =>
    cases before with
    | nil =>
      obtain ⟨-, rfl⟩ := List.cons.inj (events_eq.symm.trans hevents)
      exact .inr ⟨width, height, scale, fullscreen, number, rest, op_eq, rfl, held_eq, rfl⟩
    | cons first before =>
      obtain ⟨rfl, hrest⟩ := List.cons.inj (events_eq.symm.trans hevents)
      cases before with
      | nil => cases (List.cons.inj hrest).1
      | cons second before =>
        obtain ⟨rfl, rfl⟩ := List.cons.inj hrest
        refine .inl ?_
        rw [held_eq, heldAfter, List.foldl_cons, List.foldl_cons]
        change heldAfter (if some number = some number then none else some number) before = none
        rw [if_pos rfl]
        exact calls.unheld_of_configure

end Op.HandlesSurface

/-! ### Runs -/

lemma heldAfter_append (frame : Option ℕ) (events events' : List GpuEvent) :
    heldAfter frame (events ++ events') = heldAfter (heldAfter frame events) events' :=
  List.foldl_append

namespace Step

/-- What a step calls is noted, and the device knows which texture it holds. -/
lemma apply_held (step : Step MachineAnswers) (c : GpuContext) :
    (step.apply c).device.recorder.log =
        c.device.recorder.log ++ (step.exchanges c).flatMap (·.events) ∧
      heldAfter c.device.frame ((step.exchanges c).flatMap (·.events)) =
        (step.apply c).device.frame := by
  cases step with
  | perform op =>
    obtain ⟨hlog, hhandles⟩ := op.handlesSurface c
    exact ⟨hlog, hhandles.heldAfter_eq⟩
  | adjust answers => exact ⟨(List.append_nil _).symm, rfl⟩
  | setUi _ | setHost _ => exact ⟨(List.append_nil _).symm, rfl⟩

/-- What a run calls is noted, and the device knows which texture it holds. -/
theorem run_held (steps : List (Step MachineAnswers)) (c : GpuContext) :
    (run steps c).device.recorder.log =
        c.device.recorder.log ++ (trace steps c).flatMap (·.events) ∧
      heldAfter c.device.frame ((trace steps c).flatMap (·.events)) =
        (run steps c).device.frame := by
  induction steps generalizing c with
  | nil => exact ⟨(List.append_nil _).symm, rfl⟩
  | cons step steps ih =>
    obtain ⟨hlog, hheld⟩ := step.apply_held c
    obtain ⟨hlog', hheld'⟩ := ih (step.apply c)
    rw [run_cons, trace_cons, List.flatMap_append, heldAfter_append, hheld, hlog', hlog,
      List.append_assoc]
    exact ⟨rfl, hheld'⟩

end Step

/-- A context that is opened holds no texture. -/
lemma Context.unheld_of_open {config : Config} {ui : UiThread} {script : GpuScript}
    {init : GpuInit} {world : Recorder} {c : GpuContext}
    (h : Context.openWith config ui (GpuDevice.factory script init) world = .ok c) :
    c.device.frame = none := by
  obtain ⟨r, d, hresize, rfl⟩ := device_of_open h
  exact GpuDevice.resizeTargets_frame hresize

/-- **The surface is configured while no texture of it is held, but by a resize.** Take any run of a
context that was opened on a graphics machine, with any answers to requests for textures, and one
more step. Where that step configures the surface, no texture is held that was neither shown nor
given up; or the step is a resize, the configuration its first call, and the very next one gives the
held texture up. -/
theorem surface_configured {config : Config} {ui : UiThread} {script : GpuScript} {init : GpuInit}
    {world : Recorder} {c₀ : GpuContext}
    (hopen : Context.openWith config ui (GpuDevice.factory script init) world = .ok c₀)
    (steps : List (Step MachineAnswers)) (step : Step MachineAnswers) :
    let c := Step.run steps c₀
    let earlier := (Step.trace steps c₀).flatMap (·.events)
    c.device.recorder.log = c₀.device.recorder.log ++ earlier ∧
    c.device.frame = heldAfter none earlier ∧
    ∀ before usage surface formats after,
      (step.exchanges c).flatMap (·.events) =
          before ++ .configure usage surface formats :: after →
        heldAfter none (earlier ++ before) = none ∨
        ∃ width height scale fullscreen number rest,
          step = .perform (.resize width height scale fullscreen) ∧ before = [] ∧
          c.device.frame = some number ∧ after = .discard number :: rest := by
  intro c earlier
  obtain ⟨hlog, hheld⟩ := Step.run_held steps c₀
  rw [Context.unheld_of_open hopen] at hheld
  refine ⟨hlog, hheld.symm, fun before usage surface formats after hevents => ?_⟩
  rw [heldAfter_append, hheld]
  cases step with
  | perform op =>
    rcases (op.handlesSurface c).2.configured hevents with hnone | ⟨w, h, s, f, number, rest, rfl,
      hbefore, hframe, hafter⟩
    · exact .inl hnone
    · exact .inr ⟨w, h, s, f, number, rest, rfl, hbefore, hframe, hafter⟩
  | adjust answers => cases List.append_ne_nil_of_right_ne_nil before (by simp) hevents.symm
  | setUi _ | setHost _ => cases List.append_ne_nil_of_right_ne_nil before (by simp) hevents.symm

/-- A clear in opaque black, whose texture is then neither shown nor given up. -/
def clearedRun : List (Step MachineAnswers) := [.perform (.clear ⟨.zero, .zero, .zero, .one⟩)]

/-- A resize to another size. -/
def shrink : Op := .resize 32 24 .one false

/-- The first call on the machine that a resize makes after a clear. -/
def shrinkCall (c : GpuContext) : Option GpuEvent :=
  ((shrink.exchanges (Step.run clearedRun c)).flatMap (·.events)).head?

/-- The texture of a clear is still held where a resize after it configures the surface. -/
theorem surface_configured_held :
    ∃ c : GpuContext,
      Context.openWith {} (.running "main") (GpuDevice.factory {} {}) {} = .ok c ∧
      heldAfter none ((Step.trace clearedRun c).flatMap (·.events)) = some 1 ∧
      ∃ usage surface formats, shrinkCall c = some (.configure usage surface formats) := by
  have hcalls : (Context.openWith {} (.running "main") (GpuDevice.factory {} {})
      {}).toOption.map (fun c : GpuContext =>
        (heldAfter none ((Step.trace clearedRun c).flatMap (·.events)), shrinkCall c)) =
      some (some 1, some (.configure 16 ⟨.bgra8UnormSrgb, 32, 24, .fifo, .solid, 2⟩ 0)) := by
    decide +kernel
  obtain ⟨c, hopen⟩ : ∃ c : GpuContext,
      Context.openWith {} (.running "main") (GpuDevice.factory {} {}) {} = .ok c := ⟨_, rfl⟩
  rw [hopen] at hcalls
  obtain ⟨hheld, hcall⟩ := Prod.mk.inj (Option.some.inj hcalls)
  exact ⟨c, hopen, hheld, _, _, _, hcall⟩

/-- That resize gives the texture up in the call after it. -/
theorem surface_configured_shrink :
    ∃ c : GpuContext,
      Context.openWith {} (.running "main") (GpuDevice.factory {} {}) {} = .ok c ∧
      (Step.run clearedRun c).device.frame = some 1 ∧
      ∀ usage surface formats after,
        (shrink.exchanges (Step.run clearedRun c)).flatMap (·.events) =
            .configure usage surface formats :: after →
          ∃ rest, after = .discard 1 :: rest := by
  have hcalls : (Context.openWith {} (.running "main") (GpuDevice.factory {} {})
      {}).toOption.map (fun c : GpuContext => (Step.run clearedRun c).device.frame) =
      some (some 1) := by
    decide +kernel
  obtain ⟨c, hopen⟩ : ∃ c : GpuContext,
      Context.openWith {} (.running "main") (GpuDevice.factory {} {}) {} = .ok c := ⟨_, rfl⟩
  rw [hopen] at hcalls
  have hframe : (Step.run clearedRun c).device.frame = some 1 := Option.some.inj hcalls
  obtain ⟨-, hheld, hconfigured⟩ := surface_configured hopen clearedRun (.perform shrink)
  refine ⟨c, hopen, hframe, fun usage surface formats after hevents => ?_⟩
  rcases hconfigured [] usage surface formats after hevents with hnone |
    ⟨_, _, _, _, number, rest, -, -, hnumber, hafter⟩
  · rw [List.append_nil, ← hheld, hframe] at hnone
    cases hnone
  · cases hframe.symm.trans hnumber
    exact ⟨rest, hafter⟩

end RenderBridge
