import Mathlib.Tactic
import RenderBridge.Fault
/-!
Where failures come from.

* `Cause.IsOwn`: a reason of the engine's own, and not a device's.
* `Fault.IsAlignment`: the refusal of a write or a copy that is not in whole granules; only a device
  refuses for that (`Fault.isAlignment_of_isOwn`).
-/

set_option autoImplicit false

namespace RenderBridge

/-- The reason is not a device's. -/
def Cause.IsOwn : Cause → Bool
  | device _ => false
  | _ => true

/-- An offset or a length was refused for its alignment. -/
def DeviceCause.IsAlignment : DeviceCause → Bool
  | misaligned .. => true
  | _ => false

def Cause.IsAlignment : Cause → Bool
  | device cause => cause.IsAlignment
  | _ => false

namespace Fault

/-- An operation failed for the alignment of an offset or a length. -/
def IsAlignment : Fault → Bool
  | invalidArgument cause | openingFailed cause => cause.IsAlignment
  | compilation _ _ cause => cause.IsAlignment
  | alreadyOpen => false

lemma isAlignment_ofDevice (fault : DeviceFault) :
    (ofDevice fault).IsAlignment = fault.cause.IsAlignment := by
  rw [ofDevice]
  cases fault.kind <;> rfl

lemma isAlignment_of_isOwn {cause : Cause} (h : cause.IsOwn) :
    (invalidArgument cause).IsAlignment = false := by
  cases cause with
  | device => cases h
  | _ => rfl

end Fault

end RenderBridge
