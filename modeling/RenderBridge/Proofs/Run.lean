import Mathlib.Tactic
import RenderBridge.Context.Op
import RenderBridge.Device.Faulty
import RenderBridge.Gpu.Device
/-!
Runs of a context: operations of the host, with changes from outside between them. From outside
comes what a device is made to answer, how the UI thread takes jobs, and what host memory has left.

* `Step`, `Step.apply`, `Step.run`: one step and a list of them.
* `Adjustable`: devices that are adjusted from outside. Failures are armed on a device in host
  memory; answers are queued on a graphics machine.
* `Step.run_induction`: what every step keeps holds after every run.
-/

set_option autoImplicit false

namespace RenderBridge

/-- Devices that can be adjusted from outside. -/
class Adjustable (δ : Type) (α : outParam Type) where
  adjust : α → δ → δ

/-- A context on a device in host memory. -/
abbrev HostContext (δ : Type) := Context δ CompiledPipeline CompiledDepthStencil

/-- The next `count` calls at a point are to fail. -/
structure Arming where
  point : FaultPoint
  count : ℕ
  fault : DeviceFault
deriving DecidableEq

instance : Adjustable FaultyDevice Arming where
  adjust arming d := d.arm arming.point arming.count arming.fault

/-- Answers that a graphics machine is to give next: to requests for a surface texture, and to
attempts to build a pipeline. -/
structure MachineAnswers where
  acquire : List SurfaceStatus := []
  pipelineErrors : List (Option String) := []
deriving DecidableEq

instance : Adjustable GpuDevice MachineAnswers where
  adjust answers d :=
    { d with recorder := d.recorder.enqueue answers.acquire answers.pipelineErrors }

/-- What happens to a context at one time. -/
inductive Step (α : Type)
  | perform (op : Op)
  | adjust (change : α)
  | setUi (ui : UiThread)
  | setHost (host : HostMemory)

namespace Step

variable {δ α P D : Type} [Device δ P D] [Adjustable δ α]

/-- The context after a step. -/
def apply (step : Step α) (c : Context δ P D) : Context δ P D :=
  match step with
  | perform op => (op.apply c).2
  | adjust change => { c with device := Adjustable.adjust change c.device }
  | setUi ui => { c with ui }
  | setHost host => { c with host }

/-- The context after a list of steps. -/
def run (steps : List (Step α)) (c : Context δ P D) : Context δ P D :=
  steps.foldl (fun c step => step.apply c) c

@[simp]
lemma run_nil (c : Context δ P D) : run ([] : List (Step α)) c = c := rfl

@[simp]
lemma run_cons (step : Step α) (steps : List (Step α)) (c : Context δ P D) :
    run (step :: steps) c = run steps (step.apply c) := rfl

lemma run_append (steps steps' : List (Step α)) (c : Context δ P D) :
    run (steps ++ steps') c = run steps' (run steps c) := List.foldl_append

/-- What every step keeps holds after every run. -/
theorem run_induction {I : Context δ P D → Prop}
    (hstep : ∀ (step : Step α) (c : Context δ P D), I c → I (step.apply c))
    (steps : List (Step α)) {c : Context δ P D} (hc : I c) : I (run steps c) := by
  induction steps generalizing c with
  | nil => exact hc
  | cons step steps ih =>
    rw [run_cons]
    exact ih (hstep step c hc)

end Step

end RenderBridge
