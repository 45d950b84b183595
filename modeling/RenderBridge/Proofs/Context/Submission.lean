import RenderBridge.Proofs.Context.Unit
import RenderBridge.Proofs.Context.Work
import RenderBridge.Proofs.Device.Heap
/-!
Accounting for submissions on a device in host memory: nothing that was recorded is lost, doubled or
moved, and the serial counts what was submitted.

* `Exchange.works`, `Exchange.submitted`: what a call records, and whether it submits.
* `Linked.recorded`, `Step.run_recorded`: the record of the device is what the calls made to it
  recorded, in their order, and it has as many frames as calls that submitted.
* `submissions_accounted`: **units, submissions and serial agree** in every run.
-/

set_option autoImplicit false

namespace RenderBridge

/-! ### Calls -/

/-- The work that a call to a device in host memory records. Of a draw that fails only the first
command is kept; an indexed draw without indices is not recorded. -/
def Exchange.works (e : HostExchange) : List RecordedWork :=
  match e.request, e.accepted with
  | .clear color, true => [.clear color]
  | .encodeDraw config call, true =>
      [.draw config.commands call.kind (call.vertex.map MemoryDevice.place)
        (call.index.map MemoryDevice.place)]
  | .encodeDraw config call, false =>
      match call.kind, call.index with
      | .indexed .., none => []
      | kind, _ => [.draw (config.commands.take 1) kind none none]
  | _, _ => []

/-- Whether a call submits. -/
def Exchange.submitted (e : HostExchange) : Bool :=
  e.request.kind = .submitting && e.accepted

/-- Calls of other kinds record nothing and submit nothing. -/
lemma Exchange.works_eq_nil {e : HostExchange}
    (hkind : e.request.kind ∉ [.clearing, .drawing, .submitting]) :
    e.works = [] ∧ e.submitted = false := by
  obtain ⟨request, accepted, before, after⟩ := e
  cases request with
  | clear => simp [Request.kind] at hkind
  | encodeDraw => simp [Request.kind] at hkind
  | submit => simp [Request.kind] at hkind
  | _ => exact ⟨rfl, rfl⟩

/-- A draw with all that it needs is cut to its first command where it fails. -/
lemma Exchange.works_cut {config : DrawConfig CompiledPipeline CompiledDepthStencil}
    {call : DrawCall}
    (hindex : ∀ count format, call.kind = .indexed count format → call.index.isSome)
    {before after : FaultyDevice} :
    works ⟨.encodeDraw config call, false, before, after⟩ =
      [.draw (config.commands.take 1) call.kind none none] := by
  obtain ⟨kind, vertex, index⟩ := call
  cases kind with
  | vertices first count => rfl
  | indexed count format =>
    cases index with
    | none => cases hindex count format rfl
    | some index => rfl

namespace MemoryDevice

/-- A call as it is answered here, with any devices around it. -/
def exchange (request : HostRequest) (d : MemoryDevice) (before after : FaultyDevice) :
    HostExchange := ⟨request, (request.perform d).1.isOk, before, after⟩

/-- The record grows by what a draw records. -/
lemma recorded_encodeDraw (config : DrawConfig CompiledPipeline CompiledDepthStencil)
    (call : DrawCall) (d : MemoryDevice) (before after : FaultyDevice) :
    (encodeDraw config call d).2.recorded =
        d.recorded ++ (exchange (.encodeDraw config call) d before after).works ∧
      (encodeDraw config call d).2.submitted = d.submitted := by
  have hexchange : exchange (.encodeDraw config call) d before after =
      ⟨.encodeDraw config call, (encodeDraw config call d).1.isOk, before, after⟩ := rfl
  rw [hexchange]
  obtain ⟨kind, vertex, index⟩ := call
  by_cases hmissing : ∃ count format, kind = .indexed count format ∧ index = none
  · obtain ⟨count, format, rfl, rfl⟩ := hmissing
    exact ⟨(List.append_nil _).symm, rfl⟩
  · have hpresent : ∀ count format, kind = .indexed count format → index.isSome := by
      intro count format hkind
      cases index with
      | none => exact absurd ⟨count, format, hkind, rfl⟩ hmissing
      | some index => rfl
    rw [encodeDraw_eq config ⟨kind, vertex, index⟩ d hpresent]
    split
    · exact ⟨(List.append_assoc ..).symm, rfl⟩
    · refine ⟨?_, rfl⟩
      change _ = d.recorded ++ Exchange.works ⟨_, false, before, after⟩
      rw [Exchange.works_cut hpresent]
      exact (List.append_assoc ..).symm

/-- What a call makes of the record. -/
lemma recorded_perform (request : HostRequest) (d : MemoryDevice) (before after : FaultyDevice) :
    (request.perform d).2.recorded = d.recorded ++ (exchange request d before after).works ∧
      (request.perform d).2.submitted.length =
        d.submitted.length + if (exchange request d before after).submitted then 1 else 0 := by
  by_cases hkind : request.kind ∈ [.clearing, .drawing, .submitting]
  · cases request with
    | clear color => exact ⟨(List.append_assoc ..).symm, rfl⟩
    | submit =>
      refine ⟨?_, List.length_append⟩
      change (d.submitted ++ [d.pending]).flatten ++ [] = (d.submitted.flatten ++ d.pending) ++ []
      rw [List.flatten_append, List.flatten_singleton]
    | encodeDraw config call =>
      obtain ⟨hrecorded, hsubmitted⟩ := recorded_encodeDraw config call d before after
      exact ⟨hrecorded, congrArg List.length hsubmitted⟩
    | _ => simp [Request.kind] at hkind
  · have hkinds : ∀ kind ∈ [CallKind.clearing, .drawing, .submitting], kind ∉ [request.kind] := by
      intro kind hmem hsame
      rw [List.mem_singleton.mp hsame] at hmem
      exact hkind hmem
    have hkept := keeps_work d.pending d.submitted d.failEncodes (hkinds _ (by simp))
      (hkinds _ (by simp)) (hkinds _ (by simp)) request (List.mem_singleton.mpr rfl) d
      ⟨rfl, rfl, rfl⟩
    obtain ⟨hworks, hsubmitted⟩ :=
      Exchange.works_eq_nil (e := exchange request d before after) hkind
    obtain ⟨hpending, hframes, -⟩ := hkept
    rw [hworks, hsubmitted, recorded, recorded, hpending, hframes, List.append_nil]
    exact ⟨rfl, rfl⟩

end MemoryDevice

/-- What a call to the device makes of the record. -/
lemma FaultyDevice.recorded_perform (request : HostRequest) (d : FaultyDevice) :
    (request.perform d).2.recorded = d.recorded ++ (Exchange.of request d).works ∧
      (request.perform d).2.memory.submitted.length =
        d.memory.submitted.length + if (Exchange.of request d).submitted then 1 else 0 := by
  rcases perform_cases request d with ⟨⟨point, hpoint, -⟩, ⟨fault, herror⟩, hmemory⟩ |
      ⟨hanswer, hmemory⟩
  · -- A call that an armed failure stops reaches nothing, and encoding is none of these.
    have hworks : (Exchange.of request d).works = [] ∧
        (Exchange.of request d).submitted = false := by
      rw [Exchange.of, herror]
      cases request with
      | encodeDraw => cases hpoint
      | _ => exact ⟨rfl, rfl⟩
    rw [hworks.1, hworks.2, recorded, recorded, hmemory, List.append_nil]
    exact ⟨rfl, rfl⟩
  · have hinner := MemoryDevice.recorded_perform request d.memory d (request.perform d).2
    rw [← hmemory, MemoryDevice.exchange, ← hanswer] at hinner
    exact hinner

/-! ### Runs -/

/-- Calls one after the other record what each of them records. -/
lemma Linked.recorded {d d' : FaultyDevice} {es : List HostExchange} (h : Linked d es d') :
    d'.recorded = d.recorded ++ es.flatMap (·.works) ∧
      d'.memory.submitted.length = d.memory.submitted.length + es.countP (·.submitted) := by
  induction es generalizing d with
  | nil =>
    obtain rfl : d = d' := h
    exact ⟨(List.append_nil _).symm, rfl⟩
  | cons e es ih =>
    obtain ⟨he, hrest⟩ := h
    obtain ⟨hrecorded, hlength⟩ := ih hrest
    have hcall := FaultyDevice.recorded_perform e.request d
    rw [← he] at hcall
    have hafter : (e.request.perform d).2 = e.after := (congrArg Exchange.after he).symm
    rw [hafter] at hcall
    rw [hrecorded, hlength, hcall.1, hcall.2, List.flatMap_cons, List.append_assoc,
      List.countP_cons]
    exact ⟨rfl, by omega⟩

namespace Step

lemma apply_recorded (step : Step Arming) (c : HostContext FaultyDevice) :
    (step.apply c).device.recorded = c.device.recorded ++ (step.exchanges c).flatMap (·.works) ∧
      (step.apply c).device.memory.submitted.length =
        c.device.memory.submitted.length + (step.exchanges c).countP (·.submitted) := by
  cases step with
  | perform op => exact (op.linked_exchanges c).1.recorded
  | adjust arming =>
    obtain ⟨p, s, e, hmemory⟩ := c.device.arm_memory arming.point arming.count arming.fault
    have hpending := congrArg MemoryDevice.pending hmemory
    have hsubmitted := congrArg MemoryDevice.submitted hmemory
    have hrecorded : (c.device.arm arming.point arming.count arming.fault).recorded =
        c.device.recorded := by
      rw [FaultyDevice.recorded, hpending, hsubmitted]
      rfl
    exact ⟨hrecorded.trans (List.append_nil _).symm, congrArg List.length hsubmitted⟩
  | setUi _ | setHost _ => exact ⟨(List.append_nil _).symm, rfl⟩

/-- A run records what the calls made in it record. -/
theorem run_recorded (steps : List (Step Arming)) (c : HostContext FaultyDevice) :
    (run steps c).device.recorded = c.device.recorded ++ (trace steps c).flatMap (·.works) ∧
      (run steps c).device.memory.submitted.length =
        c.device.memory.submitted.length + (trace steps c).countP (·.submitted) := by
  induction steps generalizing c with
  | nil => exact ⟨(List.append_nil _).symm, rfl⟩
  | cons step steps ih =>
    obtain ⟨hrecorded, hlength⟩ := step.apply_recorded c
    rw [run_cons, trace_cons, (ih _).1, (ih _).2, hrecorded, hlength, List.flatMap_append,
      List.append_assoc, List.countP_append, Nat.add_assoc]
    exact ⟨rfl, rfl⟩

/-- The serial is the number of submissions throughout a run. -/
theorem run_counted (steps : List (Step Arming)) {c : HostContext FaultyDevice}
    (hc : c.Counted) : (run steps c).Counted := by
  refine run_induction (fun step c hc => ?_) steps hc
  obtain ⟨works, hrecords, -⟩ := step.records_cases c
  exact hrecords.counted hc

end Step

/-! ### Accounting -/

/-- **Units, submissions and serial agree.** Take any run on a device in host memory, whatever
fails. Every clear, and every draw whose state is resolved, is submitted in exactly one call, also
where encoding it failed; nothing else is. The serial counts the calls that submitted, as a 64-bit
word, and so many units are recorded as submitted. The units submitted, and then the work that
waits, are all the work that was ever recorded, in its order. -/
theorem submissions_accounted (config : Config) (ui : UiThread) (d : FaultyDevice)
    (hfresh : d.Fresh) (steps : List (Step Arming)) :
    let c₀ : HostContext FaultyDevice := .ofDevice config ui d
    let c := Step.run steps c₀
    let calls := Step.trace steps c₀
    (∀ op : Op,
      (∀ request d', op.Forms c request d' → op.Submits c request d' ∧
        (op.exchanges c).countP (·.request.kind = .submitting) = 1) ∧
      ((∀ request d', ¬ op.Forms c request d') →
        (op.exchanges c).countP (·.request.kind = .submitting) = 0)) ∧
    c.serial.count = UInt64.ofNat (calls.countP (·.submitted)) ∧
    c.device.memory.submitted.length = calls.countP (·.submitted) ∧
    c.device.memory.submitted.flatten ++ c.device.memory.pending = calls.flatMap (·.works) := by
  intro c₀ c calls
  have hsubmitted₀ : c₀.device.memory.submitted = [] := hfresh.submitted
  have hrecorded₀ : c₀.device.recorded = [] := by
    have hpending : c₀.device.memory.pending = [] := hfresh.pending
    rw [FaultyDevice.recorded, hsubmitted₀, hpending]
    rfl
  have hcounted₀ : c₀.Counted := by
    rw [Context.Counted, hsubmitted₀]
    rfl
  obtain ⟨hrecorded, hlength⟩ := Step.run_recorded steps c₀
  rw [hrecorded₀, List.nil_append] at hrecorded
  rw [hsubmitted₀, List.length_nil, Nat.zero_add] at hlength
  have hserial : c.Counted := Step.run_counted steps hcounted₀
  refine ⟨fun op => ⟨fun request d' hforms => ?_, fun hforms => ?_⟩, ?_, hlength, hrecorded⟩
  · have hsubmits := Op.submits_of_forms hforms
    exact ⟨hsubmits, hsubmits.countP_submitting hforms.kind_ne⟩
  · rw [List.countP_eq_zero]
    intro e he
    simpa using Op.not_submitting_of_not_forms hforms e he
  · rw [hserial, hlength]

/-- A draw whose encoding fails, a draw that cannot be submitted, and a clear that fails. -/
def brokenFrames : List (Step Arming) := [
  .adjust ⟨.encode, 1, .resource .encodeFailureArmed⟩, .perform (.draw Token.triangles 0 3),
  .adjust ⟨.submit, 1, .resource .surfaceDetached⟩, .perform (.draw Token.triangles 0 3),
  .adjust ⟨.clear, 1, .resource .surfaceDetached⟩, .perform (.clear ⟨.zero, .zero, .zero, .one⟩)]

/-- Three units are attempted and two submitted; the clear that fails submits the draw that
waited. -/
theorem submissions_accounted_brokenFrames :
    (FaultyDevice.ofAlignment 1).Fresh ∧
      ∀ c₀ : HostContext FaultyDevice, c₀ = .ofDevice {} .stopped (.ofAlignment 1) →
        (Step.trace brokenFrames c₀).countP (·.request.kind = .submitting) = 3 ∧
        (Step.run brokenFrames c₀).serial.count = 2 ∧
        (Step.run brokenFrames c₀).device.memory.submitted.map List.length = [1, 1] ∧
        (Step.run brokenFrames c₀).device.memory.submitted.flatten ++
          (Step.run brokenFrames c₀).device.memory.pending =
            (Step.trace brokenFrames c₀).flatMap (·.works) := by
  have hfresh := FaultyDevice.fresh_ofAlignment 1
  refine ⟨hfresh, ?_⟩
  rintro c₀ rfl
  exact ⟨by decide +kernel, by decide +kernel, by decide +kernel,
    (submissions_accounted {} .stopped _ hfresh brokenFrames).2.2.2⟩

end RenderBridge
