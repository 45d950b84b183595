import RenderBridge.Proofs.Context.Draw
import RenderBridge.Proofs.Device.Faulty
import RenderBridge.Proofs.Run
/-!
What operations record on a device in host memory, and when it is submitted.

* `Context.Records`: work is recorded; it waits with what is pending, or all of it leaves as
  one submission, and only then the serial moves.
* `Op.Encodes`: what the draw of an operation records.
* `Op.records_cases`, `Step.records_cases`: **what an operation records**: nothing, a clear, or a
  draw of its own; no other step records anything.
-/

set_option autoImplicit false

namespace RenderBridge

/-! ### The device -/

namespace MemoryDevice

/-- All work recorded so far, the oldest first. -/
def recorded (d : MemoryDevice) : List RecordedWork := d.submitted.flatten ++ d.pending

/-- Work is recorded by clears and draws only, and taken away by submissions only. -/
lemma keeps_work (pending : List RecordedWork) (submitted : List (List RecordedWork)) (n : ℕ)
    {kinds : List CallKind} (hclear : .clearing ∉ kinds) (hdraw : .drawing ∉ kinds)
    (hsubmit : .submitting ∉ kinds) :
    Keeps (fun d : MemoryDevice =>
      d.pending = pending ∧ d.submitted = submitted ∧ d.failEncodes = n) kinds := by
  refine keeps_of_changes fun kind hkind d d' hchanges hd => ?_
  cases hchanges with
  | clearing => exact absurd hkind hclear
  | drawing => exact absurd hkind hdraw
  | submitting => exact absurd hkind hsubmit
  | _ => exact hd

/-- A draw with all that it needs is recorded, as a whole or with its first command only. -/
lemma encodeDraw_eq (config : DrawConfig CompiledPipeline CompiledDepthStencil) (call : DrawCall)
    (d : MemoryDevice)
    (hindex : ∀ count format, call.kind = .indexed count format → call.index.isSome) :
    encodeDraw config call d =
      if d.failEncodes = 0 then
        (.ok (), d.record
          (.draw config.commands call.kind (call.vertex.map place) (call.index.map place)))
      else
        (.error (.resource .encodeFailureArmed),
          { d with failEncodes := d.failEncodes - 1 }.record
            (.draw (config.commands.take 1) call.kind none none)) := by
  obtain ⟨kind, vertex, index⟩ := call
  rw [encodeDraw]
  cases kind with
  | vertices first count => rfl
  | indexed count format =>
    cases index with
    | none => cases hindex count format rfl
    | some index => rfl

end MemoryDevice

namespace FaultyDevice

/-- A frame is submitted with all that is pending, or is not. -/
lemma submit_cases (serial : FrameSerial) (d : FaultyDevice) :
    (∃ fault d', serial.submit d = (.error fault, serial, d') ∧ d'.memory = d.memory) ∨
      (∃ d', serial.submit d = (.ok serial.next, serial.next, d') ∧
        d'.memory = d.memory.submit) := by
  have hcall := perform_cases .submit d
  rw [FrameSerial.submit]
  change Passes _ d (Device.submit d) (.ok (), d.memory.submit) at hcall
  rcases hout : Device.submit d with ⟨answer, d'⟩
  rw [hout] at hcall
  rcases hcall with ⟨-, ⟨fault, herror⟩, hmemory⟩ | ⟨hanswer, hmemory⟩
  · obtain rfl : answer = .error fault := herror
    exact .inl ⟨_, d', rfl, hmemory⟩
  · obtain rfl : answer = .ok () := hanswer
    exact .inr ⟨d', rfl, hmemory⟩

/-- A clear is recorded, or is not. -/
lemma clear_cases (color : Color) (d : FaultyDevice) :
    (Device.clear color d).2.memory = d.memory ∨
      (Device.clear color d).2.memory = d.memory.record (.clear color) := by
  rcases perform_cases (.clear color) d with ⟨-, -, hmemory⟩ | ⟨-, hmemory⟩
  · exact .inl hmemory
  · exact .inr hmemory

/-- A draw with all that it needs is recorded, as a whole or, where that is to fail, with its first
command only. -/
lemma encodeDraw_cases (config : DrawConfig CompiledPipeline CompiledDepthStencil)
    (call : DrawCall) (d : FaultyDevice)
    (hindex : ∀ count format, call.kind = .indexed count format → call.index.isSome) :
    (d.memory.failEncodes = 0 ∧ (Device.encodeDraw config call d).2.memory =
        d.memory.record (.draw config.commands call.kind
          (call.vertex.map MemoryDevice.place) (call.index.map MemoryDevice.place))) ∨
      (d.memory.failEncodes ≠ 0 ∧ ∃ n, (Device.encodeDraw config call d).2.memory =
        { d.memory with failEncodes := n }.record
          (.draw (config.commands.take 1) call.kind none none)) := by
  have hinner : (Device.encodeDraw config call d).2.memory =
      (MemoryDevice.encodeDraw config call d.memory).2 := rfl
  rw [hinner, MemoryDevice.encodeDraw_eq config call d.memory hindex]
  by_cases harmed : d.memory.failEncodes = 0
  · rw [if_pos harmed]
    exact .inl ⟨harmed, rfl⟩
  · rw [if_neg harmed]
    exact .inr ⟨harmed, _, rfl⟩

/-- All work recorded so far, the oldest first. -/
def recorded (d : FaultyDevice) : List RecordedWork :=
  d.memory.submitted.flatten ++ d.memory.pending

end FaultyDevice

/-! ### Contexts -/

variable {c c' c'' : HostContext FaultyDevice} {works : List RecordedWork}

/-- Work is recorded. It waits with what is pending, or all that is pending leaves with it as one
submission; the serial moves with a submission, and only then. -/
inductive Context.Records (c c' : HostContext FaultyDevice) (works : List RecordedWork) : Prop
  | waits (serial : c'.serial = c.serial)
      (pending : c'.device.memory.pending = c.device.memory.pending ++ works)
      (submitted : c'.device.memory.submitted = c.device.memory.submitted)
  | leaves (serial : c'.serial = c.serial.next)
      (pending : c'.device.memory.pending = [])
      (submitted : c'.device.memory.submitted =
        c.device.memory.submitted ++ [c.device.memory.pending ++ works])

/-- The serial is the number of submissions. -/
def Context.Counted (c : HostContext FaultyDevice) : Prop :=
  c.serial.count = UInt64.ofNat c.device.memory.submitted.length

namespace Context.Records

/-- The record of all work grows by what is recorded. -/
lemma recorded_eq (h : c.Records c' works) :
    c'.device.recorded = c.device.recorded ++ works := by
  rw [FaultyDevice.recorded, FaultyDevice.recorded]
  cases h with
  | waits _ hpending hsubmitted => rw [hpending, hsubmitted, List.append_assoc]
  | leaves _ hpending hsubmitted =>
    rw [hpending, hsubmitted, List.flatten_append, List.flatten_singleton, List.append_nil,
      List.append_assoc]

lemma counted (h : c.Records c' works) (hc : c.Counted) : c'.Counted := by
  rw [Counted] at hc ⊢
  cases h with
  | waits hserial _ hsubmitted => rw [hserial, hsubmitted, hc]
  | leaves hserial _ hsubmitted =>
    rw [hserial, hsubmitted, FrameSerial.next, hc, List.length_append, List.length_singleton,
      UInt64.ofNat_add]
    rfl

end Context.Records

/-- Submitting what was recorded before. -/
lemma Context.submitUnit_records (c : HostContext FaultyDevice) {c₁ : HostContext FaultyDevice}
    (hserial : c₁.serial = c.serial)
    (hpending : c₁.device.memory.pending = c.device.memory.pending ++ works)
    (hsubmitted : c₁.device.memory.submitted = c.device.memory.submitted)
    (encoded : Except DeviceFault Unit) : c.Records (c₁.submitUnit encoded).2 works := by
  rw [submitUnit_snd]
  rcases c₁.device.submit_cases c₁.serial with ⟨fault, d, hcall, hmemory⟩ | ⟨d, hcall, hmemory⟩
  · rw [hcall]
    refine .waits hserial ?_ ?_
    · exact (congrArg MemoryDevice.pending hmemory).trans hpending
    · exact (congrArg MemoryDevice.submitted hmemory).trans hsubmitted
  · rw [hcall]
    refine .leaves (congrArg FrameSerial.next hserial) ?_ ?_
    · exact congrArg MemoryDevice.pending hmemory
    · refine (congrArg MemoryDevice.submitted hmemory).trans ?_
      rw [MemoryDevice.submit, hsubmitted, hpending]

/-! ### Draws -/

namespace Op

/-- What an operation that draws records: the state resolved against that of the context, with the
bound ranges. Where encoding is to fail, only the pipeline is recorded. Both compiled objects are
in the cache afterwards. -/
inductive Encodes (op : Op) (c c' : HostContext FaultyDevice) : RecordedWork → Prop
  | whole {topology : Topology} {kind : DrawKind} {p : CompiledPipeline}
      {q : CompiledDepthStencil} (draws : op.Draws topology kind)
      (pipeline : c'.cache.pipelines.get?
        (.of c.tracker.snapshot (c.drawTarget topology (c.bindings.vertex.map (·.2)))) = some p)
      (depthStencil : c'.cache.depthStencils.get? (.of c.tracker.snapshot) = some q)
      (vertices : c.boundVertices.isSome = c.bindings.vertex.isSome)
      (indices : c.boundIndices.isSome = c.bindings.index.isSome)
      (unarmed : c.device.memory.failEncodes = 0) :
      Encodes op c c' (.draw
        (DrawConfig.of c.tracker.snapshot
          (c.drawTarget topology (c.bindings.vertex.map (·.2))) p q).commands
        kind (c.boundVertices.map MemoryDevice.place) (c.boundIndices.map MemoryDevice.place))
  | cut {topology : Topology} {kind : DrawKind} {p : CompiledPipeline}
      (draws : op.Draws topology kind)
      (pipeline : c'.cache.pipelines.get?
        (.of c.tracker.snapshot (c.drawTarget topology (c.bindings.vertex.map (·.2)))) = some p)
      (armed : c.device.memory.failEncodes ≠ 0) :
      Encodes op c c' (.draw [.pipeline p] kind none none)

/-- Encoding a draw of this state and these inputs records one draw, as a whole or cut. -/
lemma exists_encodes {op : Op} {c c' : HostContext FaultyDevice} {topology : Topology}
    {kind : DrawKind} {inputs : DrawInputs} {p : CompiledPipeline} {q : CompiledDepthStencil}
    {d : FaultyDevice} (hdraws : op.Draws topology kind) (hin : c.HasInputs kind inputs)
    (hp : c'.cache.pipelines.get?
      (.of c.tracker.snapshot (c.drawTarget topology (inputs.layout.map (·.1)))) = some p)
    (hq : c'.cache.depthStencils.get? (.of c.tracker.snapshot) = some q)
    (hfail : d.memory.failEncodes = c.device.memory.failEncodes) :
    ∃ work, op.Encodes c c' work ∧
      ∃ n, (Device.encodeDraw (DrawConfig.of c.tracker.snapshot
          (c.drawTarget topology (inputs.layout.map (·.1))) p q)
        ⟨kind, inputs.vertex, inputs.index⟩ d).2.memory =
          { d.memory with failEncodes := n }.record work := by
  rcases d.encodeDraw_cases
      (DrawConfig.of c.tracker.snapshot (c.drawTarget topology (inputs.layout.map (·.1))) p q)
      ⟨kind, inputs.vertex, inputs.index⟩ hin.indexed with
    ⟨hunarmed, hmemory⟩ | ⟨harmed, n, hmemory⟩
  · refine ⟨_, ?_, d.memory.failEncodes, hmemory⟩
    have hvertices := hin.vertex_isSome
    have hindices := hin.index_isSome
    rw [hin.vertex] at hvertices
    rw [hin.index] at hindices
    rw [hin.handle] at hp
    rw [hin.handle, hin.vertex, hin.index]
    exact .whole hdraws hp hq hvertices hindices (hfail.symm.trans hunarmed)
  · rw [hin.handle] at hp
    exact ⟨_, .cut hdraws hp fun h => harmed (hfail.trans h), n, hmemory⟩

/-- What a draw unit records. -/
lemma drawUnit_records {op : Op} {topology : Topology} {kind : DrawKind}
    (hdraws : op.Draws topology kind) (c : HostContext FaultyDevice) :
    ∃ works, c.Records (c.drawUnit topology kind).2 works ∧
      ∀ work ∈ works, op.Encodes c (c.drawUnit topology kind).2 work := by
  have hkeeps : Keeps (fun d : FaultyDevice => d.memory.pending = c.device.memory.pending ∧
      d.memory.submitted = c.device.memory.submitted ∧
      d.memory.failEncodes = c.device.memory.failEncodes) [.compiling] :=
    FaultyDevice.keeps_memory (MemoryDevice.keeps_work _ _ _ (by simp) (by simp) (by simp))
  have hresolved : ∀ inputs, (c.resolveDraw topology inputs).2.2.memory.pending =
        c.device.memory.pending ∧
      (c.resolveDraw topology inputs).2.2.memory.submitted = c.device.memory.submitted ∧
      (c.resolveDraw topology inputs).2.2.memory.failEncodes = c.device.memory.failEncodes :=
    fun inputs => DrawConfig.resolve_keeps hkeeps ⟨rfl, rfl, rfl⟩ _ _ _ _
  rcases c.drawUnit_cases topology kind with ⟨fault, -, hcall⟩ |
      ⟨inputs, fault, cache, d, -, hresolve, hcall⟩ |
        ⟨inputs, config, cache, d, hinputs, hresolve, hcall⟩
  · rw [hcall]
    exact ⟨[], .waits rfl (by simp) rfl, by simp⟩
  · obtain ⟨hpending, hsubmitted, -⟩ := hresolved inputs
    rw [hresolve] at hpending hsubmitted
    rw [hcall]
    exact ⟨[], .waits rfl (by simpa using hpending) hsubmitted, by simp⟩
  · obtain ⟨hpending, hsubmitted, hfail⟩ := hresolved inputs
    rw [hresolve] at hpending hsubmitted hfail
    rw [Context.resolveDraw] at hresolve
    obtain ⟨p, q, rfl, hp, hq⟩ := DrawConfig.resolve_ok hresolve
    have hcache : (c.drawUnit topology kind).2.cache = cache := by
      rw [hcall, Context.submitUnit_snd]
    rw [← hcache] at hp hq
    obtain ⟨work, hencodes, n, hmemory⟩ :=
      exists_encodes hdraws (c.drawInputs_ok hinputs) hp hq hfail
    refine ⟨[work], ?_, fun work' hwork => ?_⟩
    · rw [hcall]
      refine c.submitUnit_records ?_ ?_ ?_ _
      · rfl
      · dsimp only
        rw [hmemory, MemoryDevice.record, hpending]
      · dsimp only
        rw [hmemory, MemoryDevice.record, hsubmitted]
    · rw [List.mem_singleton.mp hwork]
      exact hencodes

/-- What an operation records: nothing, a clear, or a draw of its own. -/
theorem records_cases (op : Op) (c : HostContext FaultyDevice) :
    ∃ works, c.Records (op.apply c).2 works ∧
      ∀ work ∈ works, (∃ color, work = .clear color) ∨ op.Encodes c (op.apply c).2 work := by
  by_cases hdraw : .drawing ∈ op.calls
  · rcases op.draw_cases c hdraw with ⟨topology, kind, hdraws, hcall⟩ | ⟨-, hsame⟩
    · obtain ⟨works, hrecords, hworks⟩ := drawUnit_records hdraws c
      rw [hcall, replyWith_snd]
      exact ⟨works, hrecords, fun work hwork => .inr (hworks work hwork)⟩
    · rw [hsame]
      exact ⟨[], .waits rfl (by simp) rfl, by simp⟩
  · by_cases hsubmit : .submitting ∈ op.calls
    · cases op with
      | clear color =>
        rw [apply, replyWith_snd, Context.clear]
        dsimp only
        generalize (⟨_, _, _, _⟩ : Color) = clamped
        rcases c.device.clear_cases clamped with hmemory | hmemory
        · refine ⟨[], c.submitUnit_records ?_ ?_ ?_ _, by simp⟩
          · rfl
          · rw [List.append_nil]
            exact congrArg MemoryDevice.pending hmemory
          · exact congrArg MemoryDevice.submitted hmemory
        · refine ⟨[.clear clamped], c.submitUnit_records ?_ ?_ ?_ _, fun work hwork => .inl ?_⟩
          · rfl
          · exact congrArg MemoryDevice.pending hmemory
          · have hsubmitted := congrArg MemoryDevice.submitted hmemory
            exact hsubmitted
          · exact ⟨clamped, List.mem_singleton.mp hwork⟩
      | draw => simp [calls] at hdraw
      | drawIndexed => simp [calls] at hdraw
      | _ => simp [calls] at hsubmit
    · have hclear : .clearing ∉ op.calls := by
        cases op with
        | clear => simp [calls] at hsubmit
        | _ => simp [calls]
      have hkept := op.apply_keeps (FaultyDevice.keeps_memory (MemoryDevice.keeps_work
        c.device.memory.pending c.device.memory.submitted c.device.memory.failEncodes hclear hdraw
          hsubmit)) c ⟨rfl, rfl, rfl⟩
      refine ⟨[], .waits ((op.changes_apply c).serial_eq hsubmit) ?_ hkept.2.1, by simp⟩
      rw [List.append_nil]
      exact hkept.1

end Op

/-- What a step records: only operations record anything. -/
theorem Step.records_cases (step : Step Arming) (c : HostContext FaultyDevice) :
    ∃ works, c.Records (step.apply c) works ∧ ∀ work ∈ works, (∃ color, work = .clear color) ∨
      ∃ op, step = .perform op ∧ op.Encodes c (step.apply c) work := by
  cases step with
  | perform op =>
    obtain ⟨works, hrecords, hworks⟩ := op.records_cases c
    refine ⟨works, hrecords, fun work hwork => ?_⟩
    rcases hworks work hwork with hclear | hencodes
    · exact .inl hclear
    · exact .inr ⟨op, rfl, hencodes⟩
  | adjust arming =>
    obtain ⟨p, s, e, hmemory⟩ := c.device.arm_memory arming.point arming.count arming.fault
    have hpending := congrArg MemoryDevice.pending hmemory
    have hsubmitted := congrArg MemoryDevice.submitted hmemory
    refine ⟨[], .waits rfl ?_ hsubmitted, by simp⟩
    rw [List.append_nil]
    exact hpending
  | setUi _ | setHost _ => exact ⟨[], .waits rfl (by simp [apply]) rfl, by simp⟩

end RenderBridge
