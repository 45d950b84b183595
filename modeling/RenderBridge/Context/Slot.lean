import RenderBridge.Fault
/-!
The one place that a process has for a context. An attempt to open one claims it first; a claim is
given back by the attempt or context that made it, and by no other.
-/

set_option autoImplicit false

namespace RenderBridge

/-- The claim that holds the place, if any, and the number of the next claim. -/
structure Slot where
  holder : Option Nat := none
  nextClaim : Nat := 1
deriving DecidableEq

namespace Slot

/-- Claims the place where it is free. -/
def claim (slot : Slot) : Except Fault Nat × Slot :=
  match slot.holder with
  | some _ => (.error .alreadyOpen, slot)
  | none => (.ok slot.nextClaim, ⟨some slot.nextClaim, slot.nextClaim + 1⟩)

/-- Gives a claim back. Where another claim holds the place nothing changes. -/
def release (slot : Slot) (claim : Nat) : Slot :=
  if slot.holder = some claim then { slot with holder := none } else slot

end Slot

end RenderBridge
