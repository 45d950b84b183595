import RenderBridge.Context.Op
import RenderBridge.Context.Slot
/-!
A host's session: at most one live context at a time, and what is left of the devices before it.

* `Session.openContext`, `closeContext`: the life of its contexts.
* `Session.perform`: an operation on the live context.
* `Session.lastDevice`: the device of the context opened last, also after its end.
-/

set_option autoImplicit false

namespace RenderBridge

/-- A live context and the claim it holds. -/
structure LiveContext (δ P D : Type) where
  claim : Nat
  context : Context δ P D

/-- A session. `world` is what new devices are built from. -/
structure Session (ω δ P D : Type) where
  slot : Slot := {}
  ui : UiThread
  live : Option (LiveContext δ P D) := none
  /-- The device of the context that ended last. -/
  ended : Option δ := none
  world : ω

namespace Session

variable {ω δ P D : Type} [Device δ P D]

/-- Opens a context. The place is claimed before anything else, and given back where opening
fails. -/
def openContext (s : Session ω δ P D) (config : Config) (factory : DeviceFactory ω δ) :
    Except Fault Unit × Session ω δ P D :=
  match s.slot.claim with
  | (.error fault, slot) => (.error fault, { s with slot })
  | (.ok claim, slot) =>
    match Context.openWith config s.ui factory s.world with
    | .ok context => (.ok (), { s with slot, live := some ⟨claim, context⟩ })
    | .error (fault, world) => (.error fault, { s with slot := slot.release claim, world })

/-- Ends the live context, if there is one: its surface is parted from, its device retired, and its
claim given back. -/
def closeContext (s : Session ω δ P D) (factory : DeviceFactory ω δ) : Session ω δ P D :=
  match s.live with
  | none => s
  | some live =>
    let device := live.context.close
    { s with
      slot := s.slot.release live.claim, live := none, ended := some device,
      world := factory.retire device }

omit [Device δ P D] in
/-- The device of the context opened last. -/
def lastDevice (s : Session ω δ P D) : Option δ :=
  match s.live with
  | some live => some live.context.device
  | none => s.ended

omit [Device δ P D] in
/-- Changes how the UI thread takes jobs, for the live context too. -/
def setUi (s : Session ω δ P D) (ui : UiThread) : Session ω δ P D :=
  { s with ui, live := s.live.map fun live => { live with context.ui := ui } }

omit [Device δ P D] in
/-- Changes the device of the live context. -/
def mapDevice (s : Session ω δ P D) (f : δ → δ) : Session ω δ P D :=
  { s with
    live := s.live.map fun live => { live with context.device := f live.context.device } }

/-- Performs an operation on the live context; none without one. -/
def perform (s : Session ω δ P D) (op : Op) : Option (Except Fault Reply) × Session ω δ P D :=
  match s.live with
  | none => (none, s)
  | some live =>
    let (result, context) := op.apply live.context
    (some result, { s with live := some { live with context } })

end Session

end RenderBridge
