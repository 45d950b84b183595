import RenderBridge.Proofs.Buffer.Record
import RenderBridge.Proofs.Draw.Interned
/-!
Recorded draws say what the state at the draw says, whatever was cached before.

* `Snapshot.drawCommands`: the commands of a draw, written down from the render state.
* `Context.Reads`: where a frame reads a bound buffer.
* `Op.Encodes.faithful`: a draw that is encoded as a whole carries these commands and reads there.
* `Context.Kept`, `Step.run_kept`: every object that was recorded is still in the cache, under its
  own key.
-/

set_option autoImplicit false

namespace RenderBridge

/-! ### What a draw should carry -/

/-- The commands of a draw, written down from the render state. -/
def Snapshot.drawCommands {P D : Type} (s : Snapshot) (p : P) (q : D) : List (DrawCommand P D) :=
  let cull : Option Face := if s.raster.cullEnabled then some (Token.cullFace s.raster.cullFace)
    else none
  let scissor : List (DrawCommand P D) := if s.scissor.enabled then
    [.scissor ⟨s.scissor.x, s.scissor.y, s.scissor.width.toNat, s.scissor.height.toNat⟩] else []
  let viewport : ViewportRect := ⟨.ofInt s.viewport.x, .ofInt s.viewport.y,
    .ofInt s.viewport.width, .ofInt s.viewport.height, s.viewport.minDepth, s.viewport.maxDepth⟩
  let reference : ℤ := max 0 (min s.stencil.reference 255)
  let stencil : List (DrawCommand P D) := if s.stencil.enabled then
    [.stencilReference reference.toNat] else []
  [.pipeline p, .depthStencil q, .cull cull, .frontFace .ccw] ++ scissor ++ [.viewport viewport] ++
    stencil

/-- The resolved state of a draw gives these commands. -/
lemma DrawConfig.commands_of {P D : Type} (s : Snapshot) (target : DrawTarget) (p : P) (q : D) :
    (DrawConfig.of s target p q).commands = s.drawCommands p q := by
  have hreference : min s.stencil.reference.toNat 0xFF =
      (max 0 (min s.stencil.reference 255)).toNat := by omega
  rw [commands, Snapshot.drawCommands, DrawConfig.of, Snapshot.scissorRect,
    Snapshot.stencilReference, hreference]
  cases s.scissor.enabled <;> cases s.stencil.enabled <;> rfl

/-- Where a frame reads a bound buffer: at its slot of the live buffer. Where no buffer is bound,
nothing is read. -/
inductive Context.Reads (c : HostContext FaultyDevice) :
    Option BufferHandle → Option (BufferId × ℕ) → Prop
  | unbound : Reads c none none
  | bound {handle : BufferHandle} {r : BufferRecord}
      (live : c.buffers.records.get? handle = some r) :
      Reads c (some handle)
        (some (r.buffer, c.serial.count.toNat % r.slotCount * r.slotSize))

/-- A live buffer is read at its slot. -/
lemma Context.reads_of_isSome {c : HostContext FaultyDevice} {bound : Option BufferHandle}
    (h : (bound.bind fun handle =>
      (c.buffers.records.get? handle).map (·.binding c.serial)).isSome = bound.isSome) :
    c.Reads bound ((bound.bind fun handle =>
      (c.buffers.records.get? handle).map (·.binding c.serial)).map MemoryDevice.place) := by
  cases bound with
  | none => exact .unbound
  | some handle =>
    rw [Option.bind_some] at h ⊢
    cases hlive : c.buffers.records.get? handle with
    | none =>
      rw [hlive] at h
      cases h
    | some r =>
      have hplace : MemoryDevice.place (r.binding c.serial) =
          (r.buffer, c.serial.count.toNat % r.slotCount * r.slotSize) := by
        rw [MemoryDevice.place, BufferRecord.binding, BufferRecord.activeOffset,
          BufferRecord.activeSlot, FrameSerial.slot, max_eq_left r.slotCount_pos]
        rfl
      rw [Option.map_some, Option.map_some, hplace]
      exact .bound hlive

/-- A draw that is encoded as a whole carries the commands of the state, and reads the bound
buffers. -/
lemma Op.Encodes.faithful {op : Op} {c c' : HostContext FaultyDevice}
    {commands : List (DrawCommand CompiledPipeline CompiledDepthStencil)} {kind : DrawKind}
    {vertex index : Option (BufferId × ℕ)}
    (h : op.Encodes c c' (.draw commands kind vertex index))
    (hunarmed : c.device.memory.failEncodes = 0) :
    ∃ topology p q, op.Draws topology kind ∧
      c'.cache.pipelines.get?
        (.of c.tracker.snapshot (c.drawTarget topology (c.bindings.vertex.map (·.2)))) = some p ∧
      c'.cache.depthStencils.get? (.of c.tracker.snapshot) = some q ∧
      commands = c.tracker.snapshot.drawCommands p q ∧
      c.Reads (c.bindings.vertex.map (·.1)) vertex ∧ c.Reads c.bindings.index index := by
  cases h with
  | @whole topology kind p q hdraws hp hq hvertices hindices _ =>
    refine ⟨topology, p, q, hdraws, hp, hq, DrawConfig.commands_of .., ?_,
      Context.reads_of_isSome hindices⟩
    rw [Context.boundVertices] at hvertices ⊢
    have hmap : (c.bindings.vertex.bind fun bound =>
        (c.buffers.records.get? bound.1).map (·.binding c.serial)) =
          (c.bindings.vertex.map (·.1)).bind fun handle =>
            (c.buffers.records.get? handle).map (·.binding c.serial) := by
      rw [Option.bind_map]
      rfl
    rw [hmap] at hvertices ⊢
    refine Context.reads_of_isSome ?_
    rw [hvertices, Option.isSome_map]
  | cut _ _ harmed => exact absurd hunarmed harmed

/-! ### Recorded objects -/

namespace RecordedWork

/-- The pipelines that work was recorded with. -/
def pipelines : RecordedWork → List CompiledPipeline
  | clear _ => []
  | draw commands _ _ _ => commands.filterMap fun
    | .pipeline p => some p
    | _ => none

/-- The depth-stencil objects that work was recorded with. -/
def depthStencils : RecordedWork → List CompiledDepthStencil
  | clear _ => []
  | draw commands _ _ _ => commands.filterMap fun
    | .depthStencil q => some q
    | _ => none

end RecordedWork

/-- A draw has one pipeline and one depth-stencil object. -/
lemma DrawConfig.objects_commands (config : DrawConfig CompiledPipeline CompiledDepthStencil)
    (kind : DrawKind) (vertex index : Option (BufferId × ℕ)) :
    (RecordedWork.draw config.commands kind vertex index).pipelines = [config.pipeline] ∧
      (RecordedWork.draw config.commands kind vertex index).depthStencils =
        [config.depthStencil] := by
  obtain ⟨_, _, p, q, face, scissor, viewport, reference⟩ := config
  cases scissor <;> cases reference <;> exact ⟨rfl, rfl⟩

/-- Everything that was recorded is in the cache, under its own key. -/
def Context.Kept (c : HostContext FaultyDevice) : Prop :=
  ∀ work ∈ c.device.recorded,
    (∀ p ∈ work.pipelines, c.cache.pipelines.get? p.key = some p) ∧
      ∀ q ∈ work.depthStencils, c.cache.depthStencils.get? q.key = some q

/-- What an operation encodes is in the cache afterwards, under its own key. -/
lemma Op.Encodes.kept {op : Op} {c c' : HostContext FaultyDevice} {es : List HostExchange}
    {work : RecordedWork} (h : op.Encodes c c' work)
    (hinterned : c'.cache.Interned ⟨c'.device, es⟩) :
    (∀ p ∈ work.pipelines, c'.cache.pipelines.get? p.key = some p) ∧
      ∀ q ∈ work.depthStencils, c'.cache.depthStencils.get? q.key = some q := by
  have hpipeline : ∀ key p, c'.cache.pipelines.get? key = some p →
      c'.cache.pipelines.get? p.key = some p := by
    intro key p hp
    rw [hinterned.pipelines.key_eq key p hp]
    exact hp
  have hdepthStencil : ∀ key q, c'.cache.depthStencils.get? key = some q →
      c'.cache.depthStencils.get? q.key = some q := by
    intro key q hq
    rw [hinterned.depthStencils.key_eq key q hq]
    exact hq
  cases h with
  | whole _ hp hq =>
    rw [(DrawConfig.objects_commands ..).1, (DrawConfig.objects_commands ..).2]
    refine ⟨fun p' hp' => ?_, fun q' hq' => ?_⟩
    · rw [List.mem_singleton.mp hp']
      exact hpipeline _ _ hp
    · rw [List.mem_singleton.mp hq']
      exact hdepthStencil _ _ hq
  | @cut topology kind p _ hp _ =>
    refine ⟨fun p' hp' => ?_, fun q' hq' => ?_⟩
    · have hsame : p' ∈ [p] := hp'
      rw [List.mem_singleton.mp hsame]
      exact hpipeline _ _ hp
    · cases hq'

namespace Step

/-- Every step keeps what was recorded in the cache. -/
lemma apply_kept (step : Step Arming) {c : HostContext FaultyDevice} {es : List HostExchange}
    (h : c.Kept) (hinterned : (step.apply c).cache.Interned ⟨(step.apply c).device, es⟩) :
    (step.apply c).Kept := by
  obtain ⟨works, hrecords, hworks⟩ := step.records_cases c
  have hextends : c.cache.Extends (step.apply c).cache := by
    cases step with
    | perform op => exact op.cache_extends c
    | adjust arming => exact .refl c.cache
    | setUi _ | setHost _ => exact .refl c.cache
  intro work hwork
  rw [hrecords.recorded_eq] at hwork
  rcases List.mem_append.mp hwork with hold | hnew
  · obtain ⟨hpipelines, hdepthStencils⟩ := h work hold
    exact ⟨fun p hp => hextends.pipelines _ p (hpipelines p hp),
      fun q hq => hextends.depthStencils _ q (hdepthStencils q hq)⟩
  · rcases hworks work hnew with ⟨color, rfl⟩ | ⟨op, -, hencodes⟩
    · exact ⟨List.forall_mem_nil _, List.forall_mem_nil _⟩
    · exact hencodes.kept hinterned

/-- In every run, what was recorded is in the cache, and the cache has each object under its own
key. -/
theorem run_kept (steps : List (Step Arming)) {c : HostContext FaultyDevice}
    {es : List HostExchange} (h : c.Kept) (hinterned : c.cache.Interned ⟨c.device, es⟩) :
    (run steps c).Kept ∧
      (run steps c).cache.Interned ⟨(run steps c).device, es ++ trace steps c⟩ := by
  induction steps generalizing c es with
  | nil =>
    rw [trace_nil, List.append_nil]
    exact ⟨h, hinterned⟩
  | cons step steps ih =>
    have hstep : (step.apply c).cache.Interned ⟨(step.apply c).device, es ++ step.exchanges c⟩ := by
      have happly := step.apply_interned (c := c.traced es) hinterned
      rw [apply_traced] at happly
      exact happly
    rw [run_cons, trace_cons, ← List.append_assoc]
    exact ih (step.apply_kept h hstep) hstep

end Step

/-! ### Faithful draws -/

/-- Two draws in one state, and one in another, whose pipeline is refused once. -/
def recompiledRun : List (Step Arming) := [.perform (.draw Token.triangles 0 3),
  .perform (.draw Token.triangles 3 3), .adjust ⟨.pipeline, 1, .resource .encodeFailureArmed⟩,
  .perform (.draw Token.lines 0 2), .perform (.draw Token.lines 0 2)]

end RenderBridge
