/-!
The count of submitted frames. It chooses the slot that a frame uses of a buffer with several.

* `FrameSerial.next`, `after`: the serial after one more submission, or after several.
* `FrameSerial.slot`: the slot that a frame uses.
* `after_succ`: several submissions are made one by one.
-/

set_option autoImplicit false

namespace RenderBridge

/-- The number of frames submitted so far, as a 64-bit word that wraps. -/
structure FrameSerial where
  count : UInt64 := 0
deriving DecidableEq

namespace FrameSerial

/-- The serial after one more submission. -/
def next (serial : FrameSerial) : FrameSerial := ⟨serial.count + 1⟩

/-- The serial after `n` more submissions. -/
def after (serial : FrameSerial) (n : Nat) : FrameSerial := ⟨serial.count + UInt64.ofNat n⟩

/-- The slot, of so many, that the frame uses. -/
def slot (serial : FrameSerial) (slots : Nat) : Nat := serial.count.toNat % max slots 1

@[simp]
theorem after_zero (serial : FrameSerial) : serial.after 0 = serial := by
  simp [after]

theorem after_succ (serial : FrameSerial) (n : Nat) :
    serial.after (n + 1) = (serial.after n).next := by
  simp [after, next, UInt64.ofNat_add, UInt64.add_assoc]

end FrameSerial

end RenderBridge
