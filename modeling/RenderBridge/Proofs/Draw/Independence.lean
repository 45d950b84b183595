import RenderBridge.Proofs.Context.View
import RenderBridge.Proofs.Draw.Ledger
import RenderBridge.Proofs.State.Aspect
/-!
The two kinds of compiled objects do not depend on each other's state.

* `PipelineView`, `DepthStencilView`: what decides which objects of a kind are compiled and
  recorded.
* `Op.shapesPipelines`, `Op.pipelineView_silent`, `pipelineView_congr`: which operations change the
  one view, and that they make the same of equal views.
* `Op.depthStencilNote`, `Op.depthStencilView_eq`: what of an operation changes the other view.
* `Op.withoutDynamic`: operations without scissors, viewports and stencil references.
* `caches_independent`: **each kind of object follows from its own operations**.
-/

set_option autoImplicit false

namespace RenderBridge

variable {c c' : HostContext MemoryDevice}

/-! ### Pipelines -/

/-- Blending and culling decide which pipeline a draw needs. -/
def Aspect.ofPipelines : Aspect → Bool
  | blendEnabled | blendFactors | blendEquations | cull => true
  | depth | stencil | scissor | viewport => false

namespace Tracker

variable {t t' : Tracker}

/-- Settings of other aspects leave blending and culling. -/
lemma pipelineState_eq (h : t.snapshot.Drawable) {setting : Setting}
    (hother : setting.aspect.ofPipelines = false) :
    (t.apply setting).2.snapshot.blend = t.snapshot.blend ∧
      (t.apply setting).2.snapshot.raster = t.snapshot.raster := by
  have hkept : ∀ x : Aspect, x.ofPipelines = true →
      (t.apply setting).2.snapshot.get x = t.snapshot.get x := by
    intro x hx
    refine get_apply_of_ne h fun heq => ?_
    rw [heq, hother] at hx
    cases hx
  exact ⟨Snapshot.blend_eq_iff.mpr ⟨hkept .blendEnabled rfl, hkept .blendFactors rfl,
    hkept .blendEquations rfl⟩, hkept .cull rfl⟩

/-- A setting makes the same of equal blending and culling. -/
lemma pipelineState_congr (h : t.snapshot.Drawable) (h' : t'.snapshot.Drawable)
    (hblend : t.snapshot.blend = t'.snapshot.blend)
    (hraster : t.snapshot.raster = t'.snapshot.raster) (setting : Setting) :
    (t.apply setting).2.snapshot.blend = (t'.apply setting).2.snapshot.blend ∧
      (t.apply setting).2.snapshot.raster = (t'.apply setting).2.snapshot.raster := by
  obtain ⟨henabled, hfactors, hequations⟩ := Snapshot.blend_eq_iff.mp hblend
  exact ⟨Snapshot.blend_eq_iff.mpr ⟨get_apply_congr h h' setting henabled,
    get_apply_congr h h' setting hfactors, get_apply_congr h h' setting hequations⟩,
    get_apply_congr h h' setting (x := .cull) hraster⟩

end Tracker

/-- What decides which pipelines are compiled and recorded. -/
@[ext]
structure PipelineView where
  ledger : ObjectLedger PipelineKey CompiledPipeline
  handles : HandleView
  alignment : ℕ
  colorFormat : TextureFormat
  samples : UInt32
  blend : BlendState
  raster : RasterState

/-- The view after a draw that is done. -/
def PipelineView.draw (topology : Topology) (v : PipelineView) : PipelineView :=
  { v with ledger := v.ledger.use .mk ⟨v.blend, v.raster, v.colorFormat, max v.samples 1, topology,
    v.handles.bindings.vertex.map (·.2)⟩ }

/-- The view of the pipelines of a context. -/
def Context.pipelineView (c : HostContext MemoryDevice) : PipelineView where
  ledger := c.pipelineLedger
  handles := c.handleView
  alignment := c.device.alignment
  colorFormat := c.config.colorFormat
  samples := c.config.effectiveSamples
  blend := c.tracker.snapshot.blend
  raster := c.tracker.snapshot.raster

lemma Context.Drew.pipelineView_eq {topology : Topology} (h : c.Drew c' topology) :
    c'.pipelineView = c.pipelineView.draw topology := by
  obtain ⟨cache, serial, device, rfl⟩ := h.others
  rw [Context.pipelineView, h.pipelines, h.alignment]
  rfl

namespace Op

/-- The operations that change which pipelines are compiled and recorded. -/
def shapesPipelines : Op → Bool
  | set setting => setting.aspect.ofPipelines
  | createBuffer .. | destroyBuffer _ | registerLayout .. | bindVertex .. | bindIndex _ | draw ..
  | drawIndexed .. => true
  | resize .. | clear _ | present | updateBuffer .. => false

/-- The view after an operation that is no draw. -/
lemma pipelineView_eq {op : Op} (h : .drawing ∉ op.calls) (c : HostContext MemoryDevice) :
    (op.apply c).2.pipelineView =
      { c.pipelineView with
        handles := (op.apply c).2.handleView
        blend := (op.apply c).2.tracker.snapshot.blend
        raster := (op.apply c).2.tracker.snapshot.raster } := by
  obtain ⟨hidle, hledger, -⟩ := op.apply_idle h c
  have hchanges := op.changes_apply c
  have hsamples : (op.apply c).2.config.effectiveSamples = c.config.effectiveSamples := by
    rw [Config.effectiveSamples, Config.effectiveSamples, hchanges.sampleCount_eq]
  rw [Context.pipelineView, hledger, hidle.alignment, hchanges.colorFormat_eq, hsamples]
  rfl

/-- Blending and culling after an operation follow from those before it. -/
lemma pipelineState_congr (op : Op) (h : c.Sound) (h' : c'.Sound)
    (hblend : c.tracker.snapshot.blend = c'.tracker.snapshot.blend)
    (hraster : c.tracker.snapshot.raster = c'.tracker.snapshot.raster) :
    (op.apply c).2.tracker.snapshot.blend = (op.apply c').2.tracker.snapshot.blend ∧
      (op.apply c).2.tracker.snapshot.raster = (op.apply c').2.tracker.snapshot.raster := by
  rw [tracker_apply, tracker_apply]
  cases op with
  | set setting => exact Tracker.pipelineState_congr h.drawable h'.drawable hblend hraster setting
  | _ => exact ⟨hblend, hraster⟩

/-- Any other operation leaves the view of the pipelines. -/
theorem pipelineView_silent (op : Op) (h : c.Sound) (hsilent : op.shapesPipelines = false) :
    (op.apply c).2.pipelineView = c.pipelineView := by
  have hchanges := op.changes_apply c
  cases op with
  | set setting =>
    obtain ⟨hblend, hraster⟩ := Tracker.pipelineState_eq h.drawable hsilent
    rw [pipelineView_eq (by simp [calls]), apply, replyWith_snd]
    exact PipelineView.ext rfl rfl rfl rfl rfl hblend hraster
  | updateBuffer buffer offset data length =>
    rw [pipelineView_eq (by simp [calls]), hchanges.tracker_eq (by simp [calls]), apply,
      replyWith_snd, Context.updateBuffer_handleView]
    rfl
  | resize | clear | present =>
    rw [pipelineView_eq (by simp [calls]), hchanges.tracker_eq (by simp [calls]),
      handleView_eq (by simp [calls]) (by simp [calls]) (by simp [calls])]
    rfl
  | _ => cases hsilent

/-- Whether a draw is done follows from the bindings. -/
lemma drawn_congr (op : Op) (h : c.Sound) (h' : c'.Sound) (hbindings : c.bindings = c'.bindings) :
    op.drawn c = op.drawn c' := by
  rw [Bool.eq_iff_iff, op.drawn_iff h, op.drawn_iff h', hbindings]

/-- An operation makes the same of equal views of the pipelines. -/
theorem pipelineView_congr (op : Op) (h : c.Sound) (h' : c'.Sound)
    (hview : c.pipelineView = c'.pipelineView) :
    (op.apply c).2.pipelineView = (op.apply c').2.pipelineView := by
  obtain ⟨-, hhandles, halignment, -, -, hblend, hraster⟩ := PipelineView.ext_iff.mp hview
  by_cases hdraw : .drawing ∈ op.calls
  · -- the draw is done in both contexts or in neither
    have hsame := op.drawn_congr h h' (congrArg HandleView.bindings hhandles)
    cases hdrawn : op.drawn c with
    | true =>
      obtain ⟨topology, kind, hdraws, -, hdrew⟩ := op.drew_of_drawn h hdrawn
      obtain ⟨topology', kind', hdraws', -, hdrew'⟩ := op.drew_of_drawn h' (hsame ▸ hdrawn)
      obtain rfl := (hdraws.unique hdraws').1
      rw [hdrew.pipelineView_eq, hdrew'.pipelineView_eq, hview]
    | false =>
      rw [op.apply_of_not_drawn h hdraw hdrawn, op.apply_of_not_drawn h' hdraw (hsame ▸ hdrawn),
        hview]
  · obtain ⟨hblend', hraster'⟩ := op.pipelineState_congr h h' hblend hraster
    rw [pipelineView_eq hdraw, pipelineView_eq hdraw, hview, hblend', hraster',
      op.handleView_congr hhandles halignment]

/-- Pipelines are decided by the operations that shape them. -/
lemma unwinds_pipelines : Unwinds Context.Sound Context.pipelineView
    fun op _ => Option.guard shapesPipelines op where
  keeps op c h := op.apply_sound h
  silent op c h hsilent := op.pipelineView_silent h (by simpa using hsilent)
  noted op op' c c' m h h' hview hop hop' := by
    obtain ⟨rfl, -⟩ := Option.guard_eq_some_iff.mp hop
    obtain ⟨rfl, -⟩ := Option.guard_eq_some_iff.mp hop'
    exact op'.pipelineView_congr h h' hview

end Op

/-! ### Depth-stencil objects -/

/-- What decides which depth-stencil objects are compiled and recorded. -/
structure DepthStencilView where
  ledger : ObjectLedger DepthStencilKey CompiledDepthStencil
  key : DepthStencilKey

/-- The view after a draw that is done. -/
def DepthStencilView.draw (v : DepthStencilView) : DepthStencilView :=
  { v with ledger := v.ledger.use .mk v.key }

/-- The view of the depth-stencil objects of a context. -/
def Context.depthStencilView (c : HostContext MemoryDevice) : DepthStencilView :=
  ⟨c.depthStencilLedger, .of c.tracker.snapshot⟩

/-- What decides about depth-stencil objects in a run. -/
inductive DepthStencilNote
  | depth (state : DepthState)
  | stencil (key : StencilKey)
  | drawn
deriving DecidableEq

/-- The view after something noted. -/
def DepthStencilView.after (v : DepthStencilView) : DepthStencilNote → DepthStencilView
  | .depth state => { v with key.depth := state }
  | .stencil key => { v with key.stencil := key }
  | .drawn => v.draw

namespace Op

/-- Depth settings, stencil settings apart from the reference, and draws of something that are
done. -/
def depthStencilNote (op : Op) (c : HostContext MemoryDevice) : Option DepthStencilNote :=
  match op with
  | set (.depth state) => some (.depth state)
  | set (.stencil state) => some (.stencil (.of state))
  | _ => if op.drawn c then some .drawn else none

/-- Depth and stencil settings bring their part of the key, and no other operation changes it. -/
lemma depthStencilKey_eq (op : Op) (h : c.Sound) :
    DepthStencilKey.of (op.apply c).2.tracker.snapshot = match op with
      | set (.depth state) => { DepthStencilKey.of c.tracker.snapshot with depth := state }
      | set (.stencil state) => { DepthStencilKey.of c.tracker.snapshot with stencil := .of state }
      | _ => .of c.tracker.snapshot := by
  rw [tracker_apply]
  cases op with
  | set setting =>
    have hkey : ∀ s : Snapshot, DepthStencilKey.of s = ⟨s.get .depth, .of (s.get .stencil)⟩ :=
      fun s => rfl
    have hkept : ∀ x : Aspect, x ≠ setting.aspect →
        (c.tracker.apply setting).2.snapshot.get x = c.tracker.snapshot.get x :=
      fun x hx => Tracker.get_apply_of_ne h.drawable hx
    dsimp only
    rw [hkey, hkey]
    cases setting with
    | depth state =>
      have hset : (c.tracker.apply (.depth state)).2.snapshot.get .depth = state :=
        Tracker.get_apply_of_value h.drawable (.depth state) rfl
          fun v hv => (beq_iff_eq.mp hv).symm
      rw [hset, hkept .stencil (by simp [Setting.aspect])]
    | stencil state =>
      have hset : (c.tracker.apply (.stencil state)).2.snapshot.get .stencil = state :=
        Tracker.get_apply_of_value h.drawable (.stencil state) rfl
          fun v hv => (beq_iff_eq.mp hv).symm
      rw [hset, hkept .depth (by simp [Setting.aspect])]
    | _ => rw [hkept .depth (by simp [Setting.aspect]), hkept .stencil (by simp [Setting.aspect])]
  | _ => rfl

/-- The view changes with what is noted, and by that only. -/
theorem depthStencilView_eq (op : Op) (h : c.Sound) :
    (op.apply c).2.depthStencilView =
      (op.depthStencilNote c).elim c.depthStencilView c.depthStencilView.after := by
  have hkey := op.depthStencilKey_eq h
  by_cases hdraw : .drawing ∈ op.calls
  · have hnote : op.depthStencilNote c = if op.drawn c then some .drawn else none := by
      cases op with
      | set => simp [calls] at hdraw
      | _ => rfl
    rw [hnote]
    cases hdrawn : op.drawn c with
    | true =>
      obtain ⟨topology, kind, -, -, hdrew⟩ := op.drew_of_drawn h hdrawn
      obtain ⟨cache, serial, device, hothers⟩ := hdrew.others
      rw [Context.depthStencilView, hdrew.depthStencils, hothers]
      rfl
    | false =>
      rw [op.apply_of_not_drawn h hdraw hdrawn]
      rfl
  · obtain ⟨-, -, hledger⟩ := op.apply_idle hdraw c
    rw [Context.depthStencilView, hledger, hkey]
    cases op with
    | set setting => cases setting <;> rfl
    | draw | drawIndexed => simp [calls] at hdraw
    | _ => rfl

/-- Depth-stencil objects are decided by what is noted for them. -/
lemma unwinds_depthStencils :
    Unwinds Context.Sound Context.depthStencilView depthStencilNote where
  keeps op c h := op.apply_sound h
  silent op c h hsilent := by
    rw [op.depthStencilView_eq h, hsilent]
    rfl
  noted op op' c c' m h h' hview hop hop' := by
    rw [op.depthStencilView_eq h, op'.depthStencilView_eq h', hop, hop', hview]

end Op

/-! ### Dynamic state -/

namespace Op

/-- An operation without what is dynamic about it: scissors, viewports and stencil references are
left out. -/
def withoutDynamic : Op → Option Op
  | set (.scissor ..) | set (.viewport ..) => none
  | set (.stencil state) => some (.set (.stencil { state with reference := 0 }))
  | op => some op

/-- Only stencil settings lose a part. -/
lemma withoutDynamic_cases {op m : Op} (h : op.withoutDynamic = some m) :
    (∃ state, op = .set (.stencil state) ∧ m = .set (.stencil { state with reference := 0 })) ∨
      (op = m ∧ ∀ state, op ≠ .set (.stencil state)) := by
  cases op with
  | set setting =>
    cases setting with
    | stencil state =>
      cases h
      exact .inl ⟨state, rfl, rfl⟩
    | scissor | viewport => cases h
    | _ =>
      cases h
      exact .inr ⟨rfl, nofun⟩
  | _ =>
    cases h
    exact .inr ⟨rfl, nofun⟩

/-- Operations that are the same without dynamic state are the same, or two stencil settings that
differ in the reference only. -/
lemma eq_of_withoutDynamic {op op' m : Op} (h : op.withoutDynamic = some m)
    (h' : op'.withoutDynamic = some m) :
    op = op' ∨ ∃ state state' : StencilState, op = .set (.stencil state) ∧
      op' = .set (.stencil state') ∧ StencilKey.of state = StencilKey.of state' := by
  rcases withoutDynamic_cases h with ⟨state, rfl, hm⟩ | ⟨rfl, hother⟩ <;>
  rcases withoutDynamic_cases h' with ⟨state', rfl, hm'⟩ | ⟨rfl, hother'⟩
  · have hsame := Setting.stencil.inj (Op.set.inj (hm.symm.trans hm'))
    have hkey := congrArg StencilKey.of hsame
    exact .inr ⟨state, state', rfl, rfl, hkey⟩
  · exact absurd hm (hother' _)
  · exact absurd hm' (hother _)
  · exact .inl rfl

/-- All compiled objects are decided by what is not dynamic. -/
lemma unwinds_withoutDynamic :
    Unwinds Context.Sound (fun c => (c.pipelineView, c.depthStencilView))
      fun op _ => op.withoutDynamic where
  keeps op c h := op.apply_sound h
  silent op c h hsilent := by
    have hsets : op.shapesPipelines = false ∧ op.depthStencilNote c = none := by
      cases op with
      | set setting =>
        cases setting with
        | scissor | viewport => exact ⟨rfl, rfl⟩
        | _ => cases hsilent
      | _ => cases hsilent
    rw [op.pipelineView_silent h hsets.1, op.depthStencilView_eq h, hsets.2]
    rfl
  noted op op' c c' m h h' hview hop hop' := by
    obtain ⟨hpipelines, hdepthStencils⟩ := Prod.mk.inj hview
    rcases eq_of_withoutDynamic hop hop' with rfl | ⟨state, state', rfl, rfl, hkey⟩
    · have hbindings : c.bindings = c'.bindings :=
        congrArg (fun v : PipelineView => v.handles.bindings) hpipelines
      have hnote : op.depthStencilNote c = op.depthStencilNote c' := by
        unfold depthStencilNote
        rw [op.drawn_congr h h' hbindings]
      rw [op.pipelineView_congr h h' hpipelines, op.depthStencilView_eq h,
        op.depthStencilView_eq h', hnote, hdepthStencils]
    · rw [pipelineView_silent _ h rfl, pipelineView_silent _ h' rfl, hpipelines,
        depthStencilView_eq _ h, depthStencilView_eq _ h', hdepthStencils, depthStencilNote,
        depthStencilNote, hkey]

end Op

/-! ### Independence -/

/-- **The two kinds of compiled objects are independent.** Take two runs on a device in host memory
on which no failure is armed.

Where both perform the same operations on handles and bindings, draws, and settings of blending and
culling, their draws are recorded with the same pipelines, by number and key, and as many were
compiled; whatever other settings, updates, clears, resizes and presentations there are in between.
Where their draws of something that are done stand in the same places among the same depth settings
and the same stencil settings but for the reference, the same holds of depth-stencil objects,
whatever is blended, culled, bound and registered, and with whatever modes is drawn. So where they
differ in scissors, viewports and stencil references alone, both hold: dynamic state compiles
nothing. -/
theorem caches_independent (config : Config) (ui : UiThread) (d : MemoryDevice) (hd : d.Unarmed)
    (ops ops' : List Op) :
    let c₀ : HostContext MemoryDevice := .ofDevice config ui d
    let c := Op.run ops c₀
    let c' := Op.run ops' c₀
    let samePipelines := c.device.recordedPipelines = c'.device.recordedPipelines ∧
      c.device.pipelineCompilations = c'.device.pipelineCompilations
    let sameDepthStencils := c.device.recordedDepthStencils = c'.device.recordedDepthStencils ∧
      c.device.depthStencilCompilations = c'.device.depthStencilCompilations
    (ops.filter Op.shapesPipelines = ops'.filter Op.shapesPipelines → samePipelines) ∧
    (Op.notes Op.depthStencilNote ops c₀ = Op.notes Op.depthStencilNote ops' c₀ →
      sameDepthStencils) ∧
    (ops.filterMap Op.withoutDynamic = ops'.filterMap Op.withoutDynamic →
      samePipelines ∧ sameDepthStencils) := by
  intro c₀ c c' samePipelines sameDepthStencils
  have hsound : c₀.Sound := .ofDevice config ui hd
  have hpipelines : c.pipelineView = c'.pipelineView → samePipelines := by
    intro hview
    have hledger := congrArg PipelineView.ledger hview
    exact ⟨congrArg ObjectLedger.recorded hledger, congrArg ObjectLedger.attempts hledger⟩
  have hdepthStencils : c.depthStencilView = c'.depthStencilView → sameDepthStencils := by
    intro hview
    have hledger := congrArg DepthStencilView.ledger hview
    exact ⟨congrArg ObjectLedger.recorded hledger, congrArg ObjectLedger.attempts hledger⟩
  refine ⟨fun hshapes => hpipelines ?_, fun hnotes => hdepthStencils ?_, fun hstatic => ?_⟩
  · refine Op.unwinds_pipelines.run_eq hsound hsound rfl ?_
    rw [Op.notes_eq_filterMap, Op.notes_eq_filterMap, List.filterMap_eq_filter, hshapes]
  · exact Op.unwinds_depthStencils.run_eq hsound hsound rfl hnotes
  · have hnotes : Op.notes (fun op _ => op.withoutDynamic) ops c₀ =
        Op.notes (fun op _ => op.withoutDynamic) ops' c₀ := by
      rw [Op.notes_eq_filterMap, Op.notes_eq_filterMap, hstatic]
    obtain ⟨hp, hq⟩ := Prod.mk.inj (Op.unwinds_withoutDynamic.run_eq hsound hsound rfl hnotes)
    exact ⟨hpipelines hp, hdepthStencils hq⟩

/-- Two draws, the second with blending. -/
def blendedRun : List Op := [.draw Token.triangles 0 3, .set (.blendEnabled true),
  .draw Token.triangles 0 3]

/-- The same draws with a depth test, and then with a stencil test. -/
def testedRun : List Op := [.set (.depth { testEnabled := true }), .draw Token.triangles 0 3,
  .set (.scissor true 0 0 8 8), .set (.blendEnabled true),
  .set (.stencil { enabled := true, reference := 5 }), .draw Token.triangles 0 3]

/-- The same tests with other modes and culling, and without blending. -/
def culledRun : List Op := [.set (.depth { testEnabled := true }), .draw Token.lines 0 2,
  .set (.cull false Token.back), .set (.stencil { enabled := true, reference := 9 }),
  .draw Token.triangles 0 0, .draw Token.triangleStrip 0 3]

/-- The tested run with other dynamic state. -/
def movedRun : List Op := [.set (.depth { testEnabled := true }), .draw Token.triangles 0 3,
  .set (.viewport 1 1 4 4 .zero .one), .set (.blendEnabled true),
  .set (.stencil { enabled := true, reference := 9 }), .draw Token.triangles 0 3]

/-- The tests cost a depth-stencil object, and the draws have the same pipelines; other modes and
culling cost pipelines, and the draws have the same depth-stencil objects; with other scissors,
viewports and references they have the same objects of both kinds. -/
theorem caches_independent_testedRun :
    let c₀ : HostContext MemoryDevice := .ofDevice {} .stopped {}
    let device := fun ops => (Op.run ops c₀).device
    [blendedRun, testedRun, culledRun].map (fun ops => (device ops).depthStencilCompilations) =
        [1, 2, 2] ∧
      (device blendedRun).recordedPipelines = (device testedRun).recordedPipelines ∧
      (device testedRun).recordedDepthStencils = (device culledRun).recordedDepthStencils ∧
      (device testedRun).recordedPipelines ≠ (device culledRun).recordedPipelines ∧
      (device testedRun).recordedPipelines = (device movedRun).recordedPipelines ∧
      (device testedRun).recordedDepthStencils = (device movedRun).recordedDepthStencils := by
  intro c₀ device
  have hd : MemoryDevice.Unarmed {} := ⟨rfl, rfl, rfl⟩
  have hshapes : blendedRun.filter Op.shapesPipelines = testedRun.filter Op.shapesPipelines := by
    decide +kernel
  have hnotes : Op.notes Op.depthStencilNote testedRun c₀ =
      Op.notes Op.depthStencilNote culledRun c₀ := by decide +kernel
  have hstatic : testedRun.filterMap Op.withoutDynamic = movedRun.filterMap Op.withoutDynamic := by
    decide +kernel
  have hpipelines := (caches_independent {} .stopped {} hd blendedRun testedRun).1 hshapes
  have hdepthStencils := (caches_independent {} .stopped {} hd testedRun culledRun).2.1 hnotes
  have hmoved := (caches_independent {} .stopped {} hd testedRun movedRun).2.2 hstatic
  exact ⟨by decide +kernel, hpipelines.1, hdepthStencils.1, by decide +kernel, hmoved.1.1,
    hmoved.2.1⟩

end RenderBridge
