import Mathlib.Logic.Function.Basic
import RenderBridge.Context.Session
/-!
Attempts to open contexts that overlap, as on the threads of one process. They share the place for a
context and what devices are built from. Each attempt has a kind of device of its own; between any
two of its steps others may take theirs.

* `Stage`: how far an attempt has come, up to the end of its context.
* `Process.advance`: the next step of an attempt.
* `Process.step`, `run`: moves of all attempts, in any order.
-/

set_option autoImplicit false

namespace RenderBridge

/-- What an attempt to open a context is made with. -/
structure Attempt (ω δ : Type) where
  config : Config
  factory : DeviceFactory ω δ

/-- How far an attempt has come. Where it holds the place it has the number of its claim. -/
inductive Stage (δ P D : Type)
  /-- It has not begun. -/
  | waiting
  | claimed (claim : Nat)
  /-- Its size is good. -/
  | sized (claim : Nat)
  | built (claim : Nat) (device : δ)
  | opened (claim : Nat) (context : Context δ P D)
  /-- It is going to fail; its device goes first, and its claim last. -/
  | failing (claim : Nat) (device : Option δ) (fault : Fault)
  /-- Its context is dropped and parted from the surface; again the claim goes last. -/
  | closing (claim : Nat) (device : Option δ)
  | failed (fault : Fault)
  | closed

/-- The claim of an attempt that holds one. -/
def Stage.claim {δ P D : Type} : Stage δ P D → Option Nat
  | claimed claim | sized claim | built claim _ | opened claim _ | failing claim _ _
  | closing claim _ => some claim
  | waiting | failed _ | closed => none

variable {ι ω : Type} {δ P D : ι → Type}

/-- A process with its attempts. `world` is what new devices are built from. -/
structure Process (ω : Type) (δ P D : ι → Type) where
  slot : Slot := {}
  stage : ∀ i, Stage (δ i) (P i) (D i) := fun _ => .waiting
  world : ω

/-- What happens in a process at one time. The UI thread is as it is then. -/
inductive Move (δ P D : ι → Type)
  /-- An attempt takes its next step. -/
  | advance (i : ι) (ui : UiThread)
  /-- The open context of an attempt is used: by operations, or with changes from outside. -/
  | use (i : ι) (change : Context (δ i) (P i) (D i) → Context (δ i) (P i) (D i))
  /-- The open context of an attempt is dropped. -/
  | drop (i : ι) (ui : UiThread)

namespace Process

variable [DecidableEq ι]

/-- An attempt comes to a stage. -/
def put (s : Process ω δ P D) (i : ι) (stage : Stage (δ i) (P i) (D i)) : Process ω δ P D :=
  { s with stage := Function.update s.stage i stage }

variable [∀ i, Device (δ i) (P i) (D i)] (attempt : ∀ i, Attempt ω (δ i))

/-- The next step of an attempt. The place is claimed first, then the size is checked; the device is
built on the UI thread and given its first targets. An attempt that fails and a context that was
dropped give up the device and then the claim. -/
def advance (i : ι) (ui : UiThread) (s : Process ω δ P D) : Process ω δ P D :=
  let config := (attempt i).config
  let factory := (attempt i).factory
  match s.stage i with
  | .waiting =>
    match s.slot.claim with
    | (.error fault, slot) => { s with slot }.put i (.failed fault)
    | (.ok claim, slot) => { s with slot }.put i (.claimed claim)
  | .claimed claim =>
    if config.width ≤ 0 ∨ config.height ≤ 0 then
      s.put i (.failing claim none (.invalidArgument (.drawableEmpty config.width config.height)))
    else s.put i (.sized claim)
  | .sized claim =>
    match ui.run fun _ => factory.build config s.world with
    | .error fault => s.put i (.failing claim none fault)
    | .ok (.error (fault, world)) =>
      { s with world }.put i (.failing claim none (.openingFailed (.device fault.cause)))
    | .ok (.ok device) => s.put i (.built claim device)
  | .built claim device =>
    match Device.resizeTargets config.width.toNat config.height.toNat device with
    | (.ok (), device) => s.put i (.opened claim (.ofDevice config ui device))
    | (.error fault, device) =>
      s.put i (.failing claim (some device) (.openingFailed (.device fault.cause)))
  | .failing claim (some device) fault =>
    { s with world := factory.retire device }.put i (.failing claim none fault)
  | .failing claim none fault => { s with slot := s.slot.release claim }.put i (.failed fault)
  | .closing claim (some device) =>
    { s with world := factory.retire device }.put i (.closing claim none)
  | .closing claim none => { s with slot := s.slot.release claim }.put i .closed
  | .opened .. | .failed _ | .closed => s

/-- The process after a move. A context is used and dropped while it is open only. -/
def step (s : Process ω δ P D) : Move δ P D → Process ω δ P D
  | .advance i ui => s.advance attempt i ui
  | .use i change =>
    match s.stage i with
    | .opened claim context => s.put i (.opened claim (change context))
    | _ => s
  | .drop i ui =>
    match s.stage i with
    | .opened claim context => s.put i (.closing claim (some { context with ui }.close))
    | _ => s

/-- The process after a list of moves. -/
def run (moves : List (Move δ P D)) (s : Process ω δ P D) : Process ω δ P D :=
  moves.foldl (fun s move => s.step attempt move) s

end Process

end RenderBridge
