import RenderBridge.Proofs.Context.Size
import RenderBridge.Proofs.Gpu.Surface
/-!
The size of the drawable on a graphics device, of which there are three copies there: the surface's
configuration, the targets, and the textures behind the targets.

* `lastSome?`: what the last call on the machine says that says something. From it come
  `textureSize` and the configuration that the surface was last given.
* `GpuDevice.KeepsSizes`, `keepsSizes_perform`: **all calls leave the copies alone** but for those
  of a resize.
* `GpuDevice.HasSize`, `GpuDevice.followsSize`: a resize gives all of them the new size.
* `drawable_sizes_agree`: **in every run** the copies agree with the configuration of the context,
  on both kinds of devices, and a resize that fails changes none of them.
-/

set_option autoImplicit false

namespace RenderBridge

/-! ### Sizes on the machine -/

/-- What the last of some calls says that says something. -/
def lastSome? {α : Type} (f : GpuEvent → Option α) (events : List GpuEvent) : Option α :=
  events.reverse.findSome? f

namespace GpuEvent

/-- The size with which a call creates a texture. -/
def createdSize (number : ℕ) : GpuEvent → Option (ℕ × ℕ)
  | createTexture created _ width height .. =>
      if created = number then some (width, height) else none
  | _ => none

/-- The configuration that a call gives the surface. -/
def surfaceConfig : GpuEvent → Option SurfaceConfig
  | configure _ config _ => some config
  | _ => none

/-- A call that creates no texture, and configures the surface as it is, if at all. -/
def KeepsSizes (surface : SurfaceConfig) : GpuEvent → Prop
  | createTexture .. => False
  | configure _ config _ => config = surface
  | _ => True

end GpuEvent

/-- The size with which the texture of a view was created last. -/
def textureSize (events : List GpuEvent) : TextureView → Option (ℕ × ℕ)
  | .texture number => lastSome? (GpuEvent.createdSize number) events
  | .frame _ => none

section

variable {α : Type} {f : GpuEvent → Option α} {events events' : List GpuEvent}
variable {surface : SurfaceConfig}

lemma lastSome?_append : lastSome? f (events ++ events') =
    (lastSome? f events').or (lastSome? f events) := by
  simp [lastSome?, List.findSome?_append]

/-- Calls that say nothing change nothing. -/
lemma lastSome?_append_of_none (h : ∀ e ∈ events', f e = none) :
    lastSome? f (events ++ events') = lastSome? f events := by
  have hnone : lastSome? f events' = none := by
    rw [lastSome?, List.findSome?_eq_none_iff]
    exact fun e he => h e (List.mem_reverse.mp he)
  rw [lastSome?_append, hnone, Option.none_or]

/-- Nor do calls that repeat what was said. -/
lemma lastSome?_append_of_same {a : α} (h : lastSome? f events = some a)
    (hsame : ∀ e ∈ events', ∀ b, f e = some b → b = a) :
    lastSome? f (events ++ events') = some a := by
  rw [lastSome?_append]
  cases hlast : lastSome? f events' with
  | none => exact h
  | some b =>
    obtain ⟨e, he, hb⟩ := List.exists_of_findSome?_eq_some hlast
    rw [hsame e (List.mem_reverse.mp he) b hb]
    rfl

lemma textureSize_append (h : ∀ e ∈ events', e.KeepsSizes surface) (view : TextureView) :
    textureSize (events ++ events') view = textureSize events view := by
  cases view with
  | frame number => rfl
  | texture number =>
    refine lastSome?_append_of_none fun e he => ?_
    cases e with
    | createTexture => exact (h _ he).elim
    | _ => rfl

lemma lastSome?_surfaceConfig_append
    (hlast : lastSome? GpuEvent.surfaceConfig events = some surface)
    (h : ∀ e ∈ events', e.KeepsSizes surface) :
    lastSome? GpuEvent.surfaceConfig (events ++ events') = some surface := by
  refine lastSome?_append_of_same hlast fun e he config hconfig => ?_
  cases e with
  | configure =>
    cases hconfig
    exact h _ he
  | _ => cases hconfig

end

/-! ### Calls that are no resize -/

/-- A machine on which calls were made that keep sizes. -/
def Recorder.KeepsSizes (surface : SurfaceConfig) (r r' : Recorder) : Prop :=
  ∃ events, r'.log = r.log ++ events ∧ ∀ e ∈ events, e.KeepsSizes surface

namespace Recorder

variable (surface : SurfaceConfig) (r : Recorder)

lemma keepsSizes_createBuffer (label : Option String) (size : ℕ) :
    r.KeepsSizes surface (r.createBuffer label size).2 := ⟨_, rfl, by simp [GpuEvent.KeepsSizes]⟩

lemma keepsSizes_createEncoder (label : Option String) :
    r.KeepsSizes surface (r.createEncoder label).2 := ⟨_, rfl, by simp [GpuEvent.KeepsSizes]⟩

lemma keepsSizes_createPipeline (label : Option String) (description : PipelineDescription) :
    r.KeepsSizes surface (r.createPipeline label description).2 := by
  rw [createPipeline]
  dsimp only
  split <;> exact ⟨_, rfl, by simp [GpuEvent.KeepsSizes]⟩

lemma keepsSizes_acquire : r.KeepsSizes surface r.acquire.2 := by
  rw [acquire]
  dsimp only
  split <;> exact ⟨_, rfl, by simp [GpuEvent.KeepsSizes]⟩

end Recorder

lemma GpuEvent.keepsSizes_of_isPassCall {e : GpuEvent} (h : e.IsPassCall)
    (surface : SurfaceConfig) : e.KeepsSizes surface := by
  cases e with
  | createTexture => cases h
  | configure => cases h
  | _ => trivial

namespace GpuDevice

/-- The surface and the targets are the same in two states of a device, and the calls between the
two keep sizes. -/
structure KeepsSizes (d d' : GpuDevice) : Prop where
  recorder : d.recorder.KeepsSizes d.surface.config d'.recorder
  surface : d'.surface = d.surface
  targets : d'.targets = d.targets
  sampleCount : d'.sampleCount = d.sampleCount

variable {d d' d'' : GpuDevice}

namespace KeepsSizes

lemma of_log {events : List GpuEvent} (hlog : d'.recorder.log = d.recorder.log ++ events)
    (hevents : ∀ e ∈ events, e.KeepsSizes d.surface.config) (hsurface : d'.surface = d.surface)
    (htargets : d'.targets = d.targets) (hsamples : d'.sampleCount = d.sampleCount) :
    KeepsSizes d d' := ⟨⟨events, hlog, hevents⟩, hsurface, htargets, hsamples⟩

lemma refl (d : GpuDevice) : KeepsSizes d d :=
  .of_log (List.append_nil _).symm (List.forall_mem_nil _) rfl rfl rfl

lemma trans (h : KeepsSizes d d') (h' : KeepsSizes d' d'') : KeepsSizes d d'' where
  recorder := by
    obtain ⟨events, hlog, hevents⟩ := h.recorder
    obtain ⟨events', hlog', hevents'⟩ := h'.recorder
    rw [h.surface] at hevents'
    exact ⟨events ++ events', by rw [hlog', hlog, List.append_assoc],
      List.forall_mem_append.mpr ⟨hevents, hevents'⟩⟩
  surface := h'.surface.trans h.surface
  targets := h'.targets.trans h.targets
  sampleCount := h'.sampleCount.trans h.sampleCount

lemma of_recorder {r : Recorder} (h : d.recorder.KeepsSizes d.surface.config r) :
    KeepsSizes d { d with recorder := r } := ⟨h, rfl, rfl, rfl⟩

lemma emit (h : KeepsSizes d d') {events : List GpuEvent}
    (hevents : ∀ e ∈ events, e.KeepsSizes d'.surface.config) : KeepsSizes d (d'.emit events) :=
  h.trans (.of_log rfl hevents rfl rfl rfl)

lemma configureSurface (h : KeepsSizes d d') : KeepsSizes d d'.configureSurface :=
  h.emit (List.forall_mem_singleton.mpr rfl)

end KeepsSizes

lemma keepsSizes_realize (p : GpuPipeline) (q : GpuDepthStencil) (d : GpuDevice) :
    KeepsSizes d (realize p q d).2 := by
  have hcreated := d.recorder.keepsSizes_createPipeline d.surface.config (d.label "kiln pipeline")
    (p.template.describe q.state)
  rw [realize]
  split
  · exact .refl d
  · split
    · rename_i hcall
      rw [hcall] at hcreated
      exact ⟨hcreated, rfl, rfl, rfl⟩
    · rename_i hcall
      rw [hcall] at hcreated
      exact .of_recorder hcreated

lemma keepsSizes_compilePipeline (key : PipelineKey) (layout : Option VertexLayout)
    (d : GpuDevice) : KeepsSizes d (compilePipeline key layout d).2 := by
  rw [compilePipeline]
  split
  · exact .refl d
  · split
    · exact .refl d
    · rename_i template _
      have hcounted : KeepsSizes d { d with templates := d.templates + 1 } :=
        ⟨(KeepsSizes.refl d).recorder, rfl, rfl, rfl⟩
      have hrealize := hcounted.trans
        (keepsSizes_realize ⟨d.templates + 1, template⟩ defaultDepthStencil _)
      dsimp only
      split
      · rename_i hcall
        rw [hcall] at hrealize
        exact hrealize
      · rename_i hcall
        rw [hcall] at hrealize
        exact hrealize

lemma keepsSizes_createBuffer (size : ℕ) (label : Option String) (d : GpuDevice) :
    KeepsSizes d (createBuffer size label d).2 := by
  rw [createBuffer]
  dsimp only
  split
  · exact .refl d
  · exact .of_recorder (d.recorder.keepsSizes_createBuffer d.surface.config label size)

lemma keepsSizes_writeBuffer (buffer : BufferId) (offset : ℕ) (bytes : Bytes) (d : GpuDevice) :
    KeepsSizes d (writeBuffer buffer offset bytes d).2 := by
  rw [writeBuffer]
  split
  · exact .refl d
  · exact (KeepsSizes.refl d).emit (by simp [GpuEvent.KeepsSizes])

lemma keepsSizes_copyBuffer (source : BufferId) (sourceOffset : ℕ) (target : BufferId)
    (targetOffset length : ℕ) (d : GpuDevice) :
    KeepsSizes d (copyBuffer source sourceOffset target targetOffset length d).2 := by
  rw [copyBuffer]
  split
  · exact .refl d
  · split
    · exact .refl d
    · exact .emit (.of_recorder (d.recorder.keepsSizes_createEncoder d.surface.config _))
        (by simp [GpuEvent.KeepsSizes])

/-- A surface that is lost or outdated is configured as it is. -/
lemma keepsSizes_acquire (d : GpuDevice) : KeepsSizes d d.acquire.2 := by
  have hacquire := d.recorder.keepsSizes_acquire d.surface.config
  rw [acquire]
  split
  · exact .refl d
  · split <;> rename_i hcall <;> rw [hcall] at hacquire
    · rename_i frame r
      have hheld : KeepsSizes d { d with recorder := r, frame := some frame } :=
        ⟨hacquire, rfl, rfl, rfl⟩
      exact hheld.emit (by simp [GpuEvent.KeepsSizes])
    · exact .configureSurface (.of_recorder hacquire)
    · exact .configureSurface (.of_recorder hacquire)
    · exact .of_recorder hacquire

lemma keepsSizes_ensureEncoder (d : GpuDevice) : KeepsSizes d d.ensureEncoder.2 := by
  rw [ensureEncoder]
  split
  · exact .refl d
  · exact ⟨d.recorder.keepsSizes_createEncoder d.surface.config _, rfl, rfl, rfl⟩

lemma keepsSizes_ensureFrame (d : GpuDevice) : KeepsSizes d d.ensureFrame.2 := by
  have hacquire := d.keepsSizes_acquire
  rw [ensureFrame]
  split
  · exact d.keepsSizes_ensureEncoder
  · split <;> rename_i hcall <;> rw [hcall] at hacquire
    · exact hacquire
    · exact hacquire.trans (keepsSizes_ensureEncoder _)

lemma keepsSizes_beginPass (color : Option Color) (d : GpuDevice) :
    KeepsSizes d (d.beginPass color).2 := by
  have hframe := d.keepsSizes_ensureFrame
  rw [beginPass]
  split <;> rename_i hcall <;> rw [hcall] at hframe
  · exact hframe
  · dsimp only
    split
    · exact hframe
    · exact hframe.emit (by simp [GpuEvent.KeepsSizes])

lemma keepsSizes_encodePass {P D : Type} (config : DrawConfig P D) (call : DrawCall)
    (pipeline : ℕ) (targets : FrameTargets) (d : GpuDevice) :
    KeepsSizes d (encodePass config call pipeline targets d).2 := by
  have hpass := d.keepsSizes_beginPass none
  rw [encodePass]
  split <;> rename_i hcall <;> rw [hcall] at hpass
  · exact hpass
  · rename_i d₁
    have hset : KeepsSizes d (d₁.emit [.setPipeline pipeline]) :=
      hpass.emit (by simp [GpuEvent.KeepsSizes])
    dsimp only
    split
    · exact hset
    · rename_i scissor hscissor
      exact hset.emit fun e he =>
        GpuEvent.keepsSizes_of_isPassCall (passEvents_isPassCall hscissor call _ e he) _

lemma keepsSizes_encodeDraw (config : DrawConfig GpuPipeline GpuDepthStencil) (call : DrawCall)
    (d : GpuDevice) : KeepsSizes d (encodeDraw config call d).2 := by
  rw [encodeDraw]
  split
  · exact .refl d
  · split
    · exact .refl d
    · have hrealize := keepsSizes_realize config.pipeline config.depthStencil d
      split <;> rename_i hcall <;> rw [hcall] at hrealize
      · exact hrealize
      · exact hrealize.trans (keepsSizes_encodePass config call _ _ _)

lemma keepsSizes_submit (d : GpuDevice) : KeepsSizes d d.submit := by
  rw [submit]
  split
  · exact .of_log rfl (by simp [GpuEvent.KeepsSizes]) rfl rfl rfl
  · exact (KeepsSizes.refl d).emit (by simp [GpuEvent.KeepsSizes])

lemma keepsSizes_present (d : GpuDevice) : KeepsSizes d d.present := by
  rw [present]
  split
  · exact .of_log rfl (List.forall_mem_singleton.mpr trivial) rfl rfl rfl
  · exact .refl d

/-- All calls leave the sizes alone, but for those of a resize. -/
theorem keepsSizes_perform (request : Call) (hsurface : request.kind ≠ .surface)
    (htargets : request.kind ≠ .targets) (d : GpuDevice) :
    KeepsSizes d (request.perform d).2 := by
  cases request with
  | compilePipeline key layout => exact d.keepsSizes_compilePipeline key layout
  | compileDepthStencil key => exact .refl d
  | createLayout layout =>
    change KeepsSizes d (createLayout layout d).2
    rw [createLayout]
    split <;> exact .refl d
  | createBuffer size label => exact d.keepsSizes_createBuffer size label
  | releaseBuffer id => exact .refl d
  | writeBuffer id offset bytes => exact d.keepsSizes_writeBuffer id offset bytes
  | copyBuffer source sourceOffset target targetOffset length =>
    exact d.keepsSizes_copyBuffer source sourceOffset target targetOffset length
  | applyGeometry geometry thread => exact absurd rfl hsurface
  | detachSurface thread => exact absurd rfl hsurface
  | resizeTargets width height => exact absurd rfl htargets
  | clear color => exact d.keepsSizes_beginPass (some color)
  | encodeDraw config call => exact d.keepsSizes_encodeDraw config call
  | submit => exact d.keepsSizes_submit
  | present => exact d.keepsSizes_present

end GpuDevice

/-! ### Resizing -/

/-- The targets have this size, and the textures that they draw to were created with it. The second
one is there with several samples. -/
structure FrameTargets.HasSize (events : List GpuEvent) (samples : UInt32) (width height : ℕ)
    (targets : FrameTargets) : Prop where
  width_eq : targets.width = width
  height_eq : targets.height = height
  depth : textureSize events targets.depthView = some (width, height)
  sampled : ∀ view, targets.sampledView = some view →
    textureSize events view = some (width, height)
  isSome_sampled : targets.sampledView.isSome ↔ 1 < samples

namespace GpuDevice

variable {d d' : GpuDevice} {samples : UInt32} {width height : ℕ}

/-- The surface is there and was configured with this size, and the targets have it. -/
structure HasSize (samples : UInt32) (width height : ℕ) (d : GpuDevice) : Prop where
  attached : d.surface.detached = false
  width_eq : d.surface.config.width = width
  height_eq : d.surface.config.height = height
  configured : lastSome? GpuEvent.surfaceConfig d.recorder.log = some d.surface.config
  sampleCount : d.sampleCount = samples
  targets : ∃ targets, d.targets = some targets ∧
    targets.HasSize d.recorder.log samples width height

lemma HasSize.keep (h : HasSize samples width height d) (hkeeps : KeepsSizes d d') :
    HasSize samples width height d' := by
  obtain ⟨events, hlog, hevents⟩ := hkeeps.recorder
  obtain ⟨targets, htargets, hsize⟩ := h.targets
  refine ⟨by rw [hkeeps.surface, h.attached], by rw [hkeeps.surface, h.width_eq],
    by rw [hkeeps.surface, h.height_eq], ?_, by rw [hkeeps.sampleCount, h.sampleCount],
    targets, by rw [hkeeps.targets, htargets], hsize.width_eq, hsize.height_eq, ?_, ?_,
    hsize.isSome_sampled⟩
  · rw [hkeeps.surface, hlog]
    exact lastSome?_surfaceConfig_append h.configured hevents
  · rw [hlog, textureSize_append hevents]
    exact hsize.depth
  · intro view hview
    rw [hlog, textureSize_append hevents]
    exact hsize.sampled view hview

/-- New targets are asked for with a size that is not empty. -/
lemma resizeTargets_ok (hwidth : 0 < width) (hheight : 0 < height) (d : GpuDevice) :
    ∃ d', resizeTargets width height d = (.ok (), d') := by
  rw [resizeTargets, if_neg (by omega)]
  exact ⟨_, rfl⟩

/-- With several samples a second texture is created, with a number of its own. -/
lemma createSampledView_cases (width height : ℕ) (d : GpuDevice) :
    ∃ view d' events, createSampledView width height d = (view, d') ∧
      d'.recorder.log = d.recorder.log ++ events ∧ d'.surface = d.surface ∧
      d'.sampleCount = d.sampleCount ∧ (∀ e ∈ events, e.surfaceConfig = none) ∧
      (∀ number ≤ d.recorder.textures, ∀ e ∈ events, e.createdSize number = none) ∧
      (∀ v, view = some v → textureSize events v = some (width, height)) ∧
      (view.isSome ↔ 1 < d.sampleCount) := by
  rw [createSampledView]
  by_cases hsamples : 1 < d.sampleCount
  · rw [if_pos hsamples]
    refine ⟨_, _, _, rfl, List.append_assoc .., rfl, rfl, ?_, ?_, ?_, by simp [hsamples]⟩
    · simp [GpuEvent.surfaceConfig]
    · intro number hle
      simp [GpuEvent.createdSize]
      omega
    · intro v hv
      cases hv
      simp [textureSize, lastSome?, List.findSome?, GpuEvent.createdSize]
  · rw [if_neg hsamples]
    exact ⟨none, d, [], rfl, by simp, rfl, rfl, by simp, by simp, by simp, by simp [hsamples]⟩

/-- New targets have the size that was asked for, whatever was called before. -/
lemma resizeTargets_hasSize (h : resizeTargets width height d = (.ok (), d')) :
    ∃ events targets, d'.recorder.log = d.recorder.log ++ events ∧
      (∀ e ∈ events, e.surfaceConfig = none) ∧ d'.surface = d.surface ∧
      d'.sampleCount = d.sampleCount ∧ d'.targets = some targets ∧
      targets.HasSize d'.recorder.log d.sampleCount width height := by
  have hsize : ¬ (width = 0 ∨ height = 0) := by
    intro hempty
    rw [resizeTargets, if_pos hempty] at h
    cases h
  obtain ⟨before, hlog, hsurface, hsamples, hbefore⟩ : ∃ before,
      d.dropFrame.recorder.log = d.recorder.log ++ before ∧ d.dropFrame.surface = d.surface ∧
      d.dropFrame.sampleCount = d.sampleCount ∧ ∀ e ∈ before, e.surfaceConfig = none := by
    rw [dropFrame]
    split
    · exact ⟨_, rfl, rfl, rfl, by simp [GpuEvent.surfaceConfig]⟩
    · exact ⟨[], by simp, rfl, rfl, by simp⟩
  rw [resizeTargets, if_neg hsize] at h
  dsimp only at h
  generalize d.dropFrame = d₀ at h hlog hsurface hsamples
  set number := d₀.recorder.textures + 1
  obtain ⟨view, d₁, events, hview, hlog₁, hsurface₁, hsamples₁, hconfig, hother, hviewed, hsome⟩ :=
    createSampledView_cases width height { d₀ with
      recorder := (d₀.recorder.createTexture (d₀.label "kiln depth-stencil") width height
        d₀.sampleCount depthStencilFormat).2 }
  rw [hview] at h
  obtain rfl : _ = d' := congrArg Prod.snd h
  set depth : GpuEvent := .createTexture number (d₀.label "kiln depth-stencil") width height 1
    d₀.sampleCount depthStencilFormat Recorder.attachmentUsage 1 "D2"
  have hlog' : d₁.recorder.log ++ [.createView (.texture number)] =
      d.recorder.log ++ (before ++ depth :: (events ++ [.createView (.texture number)])) := by
    calc d₁.recorder.log ++ [.createView (.texture number)]
        = d₀.recorder.log ++ [depth] ++ events ++ [.createView (.texture number)] := by
          rw [hlog₁]
          rfl
      _ = d.recorder.log ++ (before ++ depth :: (events ++ [.createView (.texture number)])) := by
          simp [hlog]
  have hdepth : textureSize (d₁.recorder.log ++ [.createView (.texture number)])
      (.texture number) = some (width, height) := by
    have hlater : ∀ e ∈ events ++ [.createView (.texture number)],
        e.createdSize number = none :=
      List.forall_mem_append.mpr ⟨hother number le_rfl, List.forall_mem_singleton.mpr rfl⟩
    rw [hlog', ← List.append_assoc, List.append_cons, textureSize,
      lastSome?_append_of_none hlater, lastSome?_append]
    simp [depth, lastSome?, GpuEvent.createdSize]
  have hsampled : ∀ v, view = some v → textureSize
      (d₁.recorder.log ++ [.createView (.texture number)]) v = some (width, height) := by
    intro v hv
    have hcreated := hviewed v hv
    cases v with
    | frame number => cases hcreated
    | texture sampled =>
      rw [textureSize] at hcreated ⊢
      rw [lastSome?_append_of_none (List.forall_mem_singleton.mpr rfl), hlog₁, lastSome?_append,
        hcreated]
      rfl
  refine ⟨_, _, hlog', ?_, hsurface₁.trans hsurface, hsamples₁.trans hsamples, rfl, rfl, rfl,
    hdepth, hsampled, hsome.trans (by rw [← hsamples])⟩
  refine List.forall_mem_append.mpr ⟨hbefore, List.forall_mem_cons.mpr ⟨rfl, ?_⟩⟩
  exact List.forall_mem_append.mpr ⟨hconfig, List.forall_mem_singleton.mpr rfl⟩

/-- New targets that have the size with which the surface was configured. -/
lemma HasSize.of_resizeTargets (h : resizeTargets width height d = (.ok (), d'))
    (hattached : d.surface.detached = false) (hwidth : d.surface.config.width = width)
    (hheight : d.surface.config.height = height)
    (hconfigured : lastSome? GpuEvent.surfaceConfig d.recorder.log = some d.surface.config) :
    HasSize d.sampleCount width height d' := by
  obtain ⟨events, targets, hlog, hevents, hsurface, hsamples, htargets, hsize⟩ :=
    resizeTargets_hasSize h
  refine ⟨by rw [hsurface, hattached], by rw [hsurface, hwidth], by rw [hsurface, hheight], ?_,
    hsamples, targets, htargets, hsize⟩
  rw [hlog, hsurface, lastSome?_append_of_none hevents, hconfigured]

/-- A resize gives the surface and the targets their new size. It does not fail. -/
theorem followsSize (samples : UInt32) : FollowsSize (HasSize samples) where
  other {_ _} request hsurface htargets {d} hd :=
    hd.keep (keepsSizes_perform request hsurface htargets d)
  adjust {_ _} answers {d} hd := by
    obtain ⟨targets, htargets, hsize⟩ := hd.targets
    exact ⟨hd.attached, hd.width_eq, hd.height_eq, hd.configured, hd.sampleCount, targets,
      htargets, hsize⟩
  resized {_ _ geometry name d d'} hwidth hheight hd h := by
    have happlied : Device.applyGeometry geometry name d = { d with
        surface.config.width := geometry.width
        surface.config.height := geometry.height }.configureSurface := by
      change d.applyGeometry geometry = _
      rw [applyGeometry, hd.attached, if_neg (by simp; omega)]
    rw [happlied] at h
    have hsize := HasSize.of_resizeTargets h hd.attached rfl rfl (lastSome?_append.trans rfl)
    rw [← hd.sampleCount]
    exact hsize
  refused {_ _ geometry name fault d d'} hwidth hheight hd h := by
    obtain ⟨d₁, hok⟩ := resizeTargets_ok hwidth hheight (d.applyGeometry geometry)
    cases h.symm.trans hok

end GpuDevice

/-- A context that is opened on a graphics machine has its size there too. -/
lemma Context.sized_of_open {config : Config} {ui : UiThread} {script : GpuScript}
    {init : GpuInit} {world : Recorder} {c : GpuContext}
    (h : Context.openWith config ui (GpuDevice.factory script init) world = .ok c) :
    c.Sized (GpuDevice.HasSize config.effectiveSamples) := by
  obtain ⟨hwidth, hheight, -⟩ := openWith_ok h
  obtain ⟨r, d, hresize, rfl⟩ := device_of_open h
  refine ⟨hwidth, hheight, .of_resizeTargets hresize rfl rfl rfl ?_⟩
  change lastSome? _ (r.log ++ _ ++ _) = _
  rw [lastSome?_append_of_none (by simp [GpuEvent.surfaceConfig]), lastSome?_append]
  rfl

/-- A resize on a graphics machine that fails changes nothing. -/
lemma Context.resize_error {c : GpuContext} {width height : ℤ} {scale : Single}
    {fullscreen : Bool} {fault : Fault}
    (h : (c.resize width height scale fullscreen).1 = .error fault) :
    (c.resize width height scale fullscreen).2 = c := by
  rcases c.resize_cases width height scale fullscreen with ⟨fault, hcall⟩ |
      ⟨geometry, name, hwidth, hheight, -, -, ⟨fault, d, htargets, hcall⟩ | ⟨d, htargets, hcall⟩⟩
  · rw [hcall]
  · have hwidth_pos : 0 < width.toNat := by omega
    have hheight_pos : 0 < height.toNat := by omega
    obtain ⟨d', hok⟩ := GpuDevice.resizeTargets_ok hwidth_pos hheight_pos
      (c.device.applyGeometry geometry)
    cases htargets.symm.trans hok
  · rw [hcall] at h
    cases h

/-! ### Runs on both kinds of devices -/

/-- **The sizes of the drawable agree.** Take any run of a context, with resizes that fail for any
reason among its operations. In host memory the targets have the size in the configuration, and a
resize that fails changes neither. On a graphics machine, where the surface is never parted from
before the context ends, the surface was last configured with that size, and the targets have it,
as have the textures behind them: the one for depths, and the one with several samples where there
is one. A resize that fails changes nothing at all there. All sizes are positive. -/
theorem drawable_sizes_agree :
    (∀ {ω : Type} {factory : DeviceFactory ω FaultyDevice} {config : Config} {ui : UiThread}
        {world : ω} {c₀ : HostContext FaultyDevice},
      Context.openWith config ui factory world = .ok c₀ → ∀ steps : List (Step Arming),
        let c := Step.run steps c₀
        0 < c.config.width ∧ 0 < c.config.height ∧
        c.device.memory.targetWidth = c.config.width ∧
        c.device.memory.targetHeight = c.config.height ∧
        ∀ width height scale fullscreen fault,
          (c.resize width height scale fullscreen).1 = .error fault →
            let c' := (c.resize width height scale fullscreen).2
            c'.config = c.config ∧
            c'.device.memory.targetWidth = c.device.memory.targetWidth ∧
            c'.device.memory.targetHeight = c.device.memory.targetHeight) ∧
    (∀ {config : Config} {ui : UiThread} {script : GpuScript} {init : GpuInit} {world : Recorder}
        {c₀ : GpuContext},
      Context.openWith config ui (GpuDevice.factory script init) world = .ok c₀ →
      ∀ steps : List (Step MachineAnswers),
        let c := Step.run steps c₀
        let surface := c.device.surface
        let log := c.device.recorder.log
        0 < c.config.width ∧ 0 < c.config.height ∧
        surface.detached = false ∧
        surface.config.width = c.config.width ∧ surface.config.height = c.config.height ∧
        lastSome? GpuEvent.surfaceConfig log = some surface.config ∧
        (∃ targets, c.device.targets = some targets ∧
          targets.width = c.config.width ∧ targets.height = c.config.height ∧
          textureSize log targets.depthView = some (targets.width, targets.height) ∧
          (targets.sampledView.isSome ↔ 1 < config.effectiveSamples) ∧
          ∀ view, targets.sampledView = some view →
            textureSize log view = some (targets.width, targets.height)) ∧
        ∀ width height scale fullscreen fault,
          (c.resize width height scale fullscreen).1 = .error fault →
            (c.resize width height scale fullscreen).2 = c) := by
  refine ⟨fun hopen steps => ?_, fun hopen steps => ?_⟩
  · intro c
    obtain ⟨hwidth, hheight, htargets⟩ := Step.run_sized steps FaultyDevice.followsSize
      (HostContext.sized_of_open hopen)
    refine ⟨hwidth, hheight, ?_, ?_, fun _ _ _ _ _ hfailed =>
      FaultyDevice.followsSize.resize_error hfailed ⟨rfl, rfl⟩⟩
    · rw [htargets.1, Int.toNat_of_nonneg hwidth.le]
    · rw [htargets.2, Int.toNat_of_nonneg hheight.le]
  · intro c surface log
    obtain ⟨hwidth, hheight, hsize⟩ := Step.run_sized steps (GpuDevice.followsSize _)
      (Context.sized_of_open hopen)
    obtain ⟨targets, htargets, ht⟩ := hsize.targets
    refine ⟨hwidth, hheight, hsize.attached, ?_, ?_, hsize.configured, ⟨targets, htargets, ?_, ?_,
      ?_, ht.isSome_sampled, ?_⟩, fun _ _ _ _ _ hfailed => Context.resize_error hfailed⟩
    · rw [hsize.width_eq, Int.toNat_of_nonneg hwidth.le]
    · rw [hsize.height_eq, Int.toNat_of_nonneg hheight.le]
    · rw [ht.width_eq, Int.toNat_of_nonneg hwidth.le]
    · rw [ht.height_eq, Int.toNat_of_nonneg hheight.le]
    · rw [ht.width_eq, ht.height_eq]
      exact ht.depth
    · rw [ht.width_eq, ht.height_eq]
      exact ht.sampled

/-- Resizes of which the first succeeds. The second comes after a change of the device, the third
finds no UI thread, and the last one asks for an empty drawable. -/
def interruptedResizes {α : Type} (change : α) : List (Step α) :=
  [.perform (.resize 32 24 .one false), .adjust change, .perform (.resize 64 48 .one false),
    .setUi .stopped, .perform (.resize 10 10 .one false), .perform (.resize 0 5 .one false)]

/-- Devices in host memory that are built whatever is asked for. -/
def memoryFactory : DeviceFactory Unit FaultyDevice := ⟨fun _ _ => .ok {}, fun _ => ()⟩

/-- The second resize is made to fail in host memory. -/
def armedResizes : List (Step Arming) := interruptedResizes
  { point := .resizeTargets, count := 1, fault := .resource .targetsNotReady }

/-- The second resize fails in host memory and succeeds on a graphics machine. The later ones fail
on both. -/
theorem drawable_sizes_agree_interruptedResizes :
    (∃ c₀ : HostContext FaultyDevice,
      Context.openWith {} (.running "main") memoryFactory () = .ok c₀ ∧
      let c := Step.run armedResizes c₀
      c.config.width = 32 ∧ c.device.memory.targetWidth = (32 : ℤ) ∧
      (c.resize 10 10 .one false).2.config = c.config) ∧
    ∃ c₀ : GpuContext,
      Context.openWith { sampleCount := 4 } (.running "main") (GpuDevice.factory {} {}) {} =
        .ok c₀ ∧
      let c := Step.run (interruptedResizes {}) c₀
      c.config.width = 64 ∧ c.device.surface.config.width = (64 : ℤ) ∧
      (c.resize 0 5 .one false).2 = c := by
  obtain ⟨onHost, onGpu⟩ := drawable_sizes_agree
  constructor
  · have hrun : (Context.openWith {} (.running "main") memoryFactory ()).toOption.map
        (fun c : HostContext FaultyDevice => ((Step.run armedResizes c).config.width,
          (Step.run armedResizes c).ui)) = some (32, .stopped) := by decide +kernel
    obtain ⟨c₀, hopen⟩ : ∃ c₀ : HostContext FaultyDevice,
        Context.openWith {} (.running "main") memoryFactory () = .ok c₀ := ⟨_, rfl⟩
    rw [hopen] at hrun
    obtain ⟨hwidth, hui⟩ := Prod.mk.inj (Option.some.inj hrun)
    obtain ⟨-, -, htarget, -, hfailed⟩ := onHost hopen armedResizes
    have hrefused : ((Step.run armedResizes c₀).resize 10 10 .one false).1 =
        .error (.openingFailed .uiStopped) := by
      simp only [Context.resize, hui]
      rfl
    exact ⟨c₀, hopen, hwidth, htarget.trans hwidth, (hfailed _ _ _ _ _ hrefused).1⟩
  · have hrun : (Context.openWith { sampleCount := 4 } (.running "main") (GpuDevice.factory {} {})
        {}).toOption.map (fun c : GpuContext =>
          (Step.run (interruptedResizes {}) c).config.width) = some 64 := by decide +kernel
    obtain ⟨c₀, hopen⟩ : ∃ c₀ : GpuContext, Context.openWith { sampleCount := 4 }
        (.running "main") (GpuDevice.factory {} {}) {} = .ok c₀ := ⟨_, rfl⟩
    rw [hopen] at hrun
    have hwidth : (Step.run (interruptedResizes {}) c₀).config.width = 64 := Option.some.inj hrun
    obtain ⟨-, -, -, hsurface, -, -, -, hfailed⟩ := onGpu hopen (interruptedResizes {})
    exact ⟨c₀, hopen, hwidth, hsurface.trans hwidth, hfailed 0 5 .one false _ rfl⟩

end RenderBridge
