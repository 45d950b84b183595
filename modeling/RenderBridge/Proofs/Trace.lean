import RenderBridge.Proofs.Context.Simulation
import RenderBridge.Proofs.Device.Trace
import RenderBridge.Proofs.Run
/-!
The calls that operations and runs make to the device.

* `Op.exchanges`, `Step.trace`: the calls of one operation and of a run, as the traced device notes
  them. The trace changes nothing (`Op.apply_traced`, `Step.run_traced`).
* `Op.linked_exchanges`: the calls of an operation are of its kinds, and lead from the device before
  it to the device after it.
* `Step.trace_append`: the trace of a run is that of its parts, one after the other.
-/

set_option autoImplicit false

namespace RenderBridge

variable {δ α P D : Type} [Device δ P D]

/-! ### Operations -/

/-- The context on its device with a trace. -/
def Context.traced (c : Context δ P D) (es : List (Exchange δ P D)) :
    Context (Traced δ P D) P D := c.onDevice ⟨c.device, es⟩

namespace Op

/-- The calls that an operation makes. -/
def exchanges (op : Op) (c : Context δ P D) : List (Exchange δ P D) :=
  (op.apply (c.traced [])).2.device.exchanges

/-- On a traced device an operation does what it does on the device, and notes its calls. -/
theorem apply_traced (op : Op) (c : Context δ P D) (es : List (Exchange δ P D)) :
    op.apply (c.traced es) =
      ((op.apply c).1, (op.apply c).2.traced (es ++ op.exchanges c)) := by
  have herase : Context.Alike (fun (t : Traced δ P D) (d : δ) => d = t.device)
      (c.traced []) c := ⟨c.device, rfl, rfl⟩
  have hshift : Context.Alike
      (fun t t' : Traced δ P D => t' = ⟨t.device, es ++ t.exchanges⟩)
      (c.traced []) (c.traced es) :=
    ⟨⟨c.device, es⟩, rfl, by simp [Context.traced, Context.onDevice]⟩
  obtain ⟨hanswer, d, hd, rfl⟩ := apply_alike op (Traced.simulates op.calls) herase
  obtain ⟨hanswer', t, ht, rfl⟩ := apply_alike op (Traced.simulates_prepend es op.calls) hshift
  refine Prod.ext ?_ ?_
  · rw [← hanswer', hanswer]
  · rw [ht, hd]
    rfl

/-- The calls of an operation are of its kinds, and lead from the device before it to the device
after it. -/
theorem linked_exchanges (op : Op) (c : Context δ P D) :
    Linked c.device (op.exchanges c) (op.apply c).2.device ∧
      ∀ e ∈ op.exchanges c, e.request.kind ∈ op.calls := by
  have hkeeps : Keeps (fun t : Traced δ P D => Linked c.device t.exchanges t.device ∧
      ∀ e ∈ t.exchanges, e.request.kind ∈ op.calls) op.calls := by
    intro request hkind t ht
    obtain ⟨hlinked, hkinds⟩ := ht
    rw [Traced.perform_eq_call]
    refine ⟨hlinked.append (Linked.single request t.device), ?_⟩
    intro e he
    rcases List.mem_append.mp he with he | he
    · exact hkinds e he
    · rw [List.mem_singleton.mp he]
      exact hkind
  have h := apply_keeps op hkeeps (c.traced []) ⟨rfl, by simp [Context.traced, Context.onDevice]⟩
  rw [apply_traced] at h
  exact h

end Op

/-! ### Runs -/

variable [Adjustable δ α]

/-- A traced device is adjusted as the device is; that is no call. -/
instance : Adjustable (Traced δ P D) α where
  adjust change t := { t with device := Adjustable.adjust change t.device }

namespace Step

/-- The calls that a run makes. -/
def trace (steps : List (Step α)) (c : Context δ P D) : List (Exchange δ P D) :=
  (run steps (c.traced [])).device.exchanges

/-- The calls that a step makes. -/
def exchanges (step : Step α) (c : Context δ P D) : List (Exchange δ P D) :=
  match step with
  | perform op => op.exchanges c
  | adjust _ | setUi _ | setHost _ => []

lemma apply_traced (step : Step α) (c : Context δ P D) (es : List (Exchange δ P D)) :
    step.apply (c.traced es) = (step.apply c).traced (es ++ step.exchanges c) := by
  cases step with
  | perform op => exact congrArg Prod.snd (op.apply_traced c es)
  | adjust change => rw [exchanges, List.append_nil]; rfl
  | setUi _ | setHost _ => rw [exchanges, List.append_nil]; rfl

/-- On a traced device a run goes as on the device, and its calls are noted. -/
theorem run_traced (steps : List (Step α)) (c : Context δ P D) (es : List (Exchange δ P D)) :
    run steps (c.traced es) = (run steps c).traced (es ++ trace steps c) := by
  induction steps generalizing c es with
  | nil =>
    have hnil : trace ([] : List (Step α)) c = [] := rfl
    rw [run_nil, run_nil, hnil, List.append_nil]
  | cons step steps ih =>
    have htrace : trace (step :: steps) c = step.exchanges c ++ trace steps (step.apply c) := by
      rw [trace, run_cons, apply_traced, ih]
      rfl
    rw [run_cons, run_cons, apply_traced, ih, htrace, List.append_assoc]

@[simp]
lemma trace_nil (c : Context δ P D) : trace ([] : List (Step α)) c = [] := rfl

lemma trace_cons (step : Step α) (steps : List (Step α)) (c : Context δ P D) :
    trace (step :: steps) c = step.exchanges c ++ trace steps (step.apply c) := by
  rw [trace, run_cons, apply_traced, run_traced]
  rfl

/-- The trace of a run in two parts. -/
theorem trace_append (steps steps' : List (Step α)) (c : Context δ P D) :
    trace (steps ++ steps') c = trace steps c ++ trace steps' (run steps c) := by
  rw [trace, run_append, run_traced, run_traced]
  rfl

end Step

end RenderBridge
