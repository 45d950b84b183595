import RenderBridge.Bytes
import RenderBridge.Draw.Command
import RenderBridge.Fault
import RenderBridge.Frame.Serial
import RenderBridge.Number.Word
/-!
One logical buffer over a device buffer.

A static buffer has one slot. A dynamic buffer has three inside one allocation; a frame reads and
writes the slot that its serial chooses, so the two frames before it keep theirs. A device that
copies in granules gets every upload widened to whole granules; the bytes at the edges come from a
shadow of the allocation in host memory.

* `BufferUsage.slotSize`: the bytes of a slot.
* `BufferRecord.stage`: an upload, widened where there is a shadow, and the record after it.
-/

set_option autoImplicit false

namespace RenderBridge

/-- How often a buffer is written. -/
inductive BufferUsage
  | unchanging
  | changing
deriving DecidableEq

namespace BufferUsage

def name : BufferUsage → String
  | unchanging => "Static"
  | changing => "Dynamic"

/-- The usage for a host's number: 0 static, 1 dynamic. -/
def ofToken (token : Int) : Except Fault BufferUsage :=
  if token = 0 then .ok unchanging
  else if token = 1 then .ok changing
  else .error (.invalidArgument (.unknownBufferUsage token))

/-- The number of slots of a dynamic buffer. -/
def dynamicSlots : Nat := 3

def slotCount : BufferUsage → Nat
  | unchanging => 1
  | changing => dynamicSlots

/-- The alignment of dynamic slots. -/
def dynamicAlignment : Nat := 256

/-- What the size of a slot is a multiple of, at least. -/
def slotAlignment : BufferUsage → Nat
  | unchanging => 4
  | changing => dynamicAlignment

/-- The bytes of a slot for `size` bytes. -/
def slotSize (usage : BufferUsage) (size granule : Nat) : Nat :=
  Word.alignUp size (max usage.slotAlignment granule)

end BufferUsage

/-- Bytes to be written at an offset of an allocation. -/
structure Upload where
  offset : Nat
  bytes : Bytes
deriving DecidableEq

/-- Brings `bytes` into the shadow and widens them to whole granules. -/
def Upload.widen (shadow : Bytes) (offset : Nat) (bytes : Bytes) (granule : Nat) :
    Upload × Bytes :=
  let shadow := shadow.overwrite offset bytes
  let start := offset / granule * granule
  let stop := min (Word.alignUp (offset + bytes.size) granule) shadow.size
  (⟨start, shadow.slice start (stop - start)⟩, shadow)

/-- A logical buffer. -/
structure BufferRecord where
  usage : BufferUsage
  size : Nat
  slotSize : Nat
  buffer : BufferId
  /-- What the device was told to hold, for a device that copies in granules. -/
  shadow : Option Bytes
deriving DecidableEq

namespace BufferRecord

def slotCount (r : BufferRecord) : Nat := r.usage.slotCount

/-- The bytes of the allocation. -/
def total (r : BufferRecord) : Nat := r.slotSize * r.slotCount

def slotOffset (r : BufferRecord) (slot : Nat) : Nat := slot * r.slotSize

/-- The slot that a frame reads and writes. -/
def activeSlot (r : BufferRecord) (serial : FrameSerial) : Nat := serial.slot r.slotCount

/-- Where the slot of a frame starts. -/
def activeOffset (r : BufferRecord) (serial : FrameSerial) : Nat :=
  r.slotOffset (r.activeSlot serial)

/-- The range that draws of a frame read. -/
def binding (r : BufferRecord) (serial : FrameSerial) : BufferBinding :=
  ⟨r.buffer, r.activeOffset serial, r.size⟩

/-- The upload of `bytes` at an offset of the allocation, and the record with its shadow brought up
to date. Without a shadow the bytes go as they are. -/
def stage (r : BufferRecord) (offset : Nat) (bytes : Bytes) (granule : Nat) :
    Upload × BufferRecord :=
  match r.shadow with
  | none => (⟨offset, bytes⟩, r)
  | some shadow =>
    let (upload, shadow) := Upload.widen shadow offset bytes granule
    (upload, { r with shadow := some shadow })

end BufferRecord

end RenderBridge
