import RenderBridge.Device.Basic
import RenderBridge.Frame.Serial
/-!
Submitting a unit of work: the only place where the frame serial moves.
-/

set_option autoImplicit false

namespace RenderBridge

variable {δ P D : Type} [Device δ P D]

/-- Hands the recorded work over; the serial moves where the device takes it. -/
def FrameSerial.submit (serial : FrameSerial) (device : δ) :
    Except Fault FrameSerial × FrameSerial × δ :=
  match Device.submit device with
  | (.ok (), device) => (.ok serial.next, serial.next, device)
  | (.error fault, device) => (.error (.ofDevice fault), serial, device)

end RenderBridge
