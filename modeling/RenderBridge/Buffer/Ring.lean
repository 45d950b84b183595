import RenderBridge.Device.Basic
import RenderBridge.Frame.Serial
import RenderBridge.Number.Word
/-!
The staging ring: one device buffer with a cursor, through which updates of dynamic buffers travel.

The cursor rewinds where the frame serial has moved since the last reservation, and wraps to zero
where a reservation does not fit behind it. A reservation longer than the ring makes it grow; the
old buffer is given back and a new one is made on the spot.

* `StagingRing.rewind`, `grow`, `place`: the three steps that settle where a reservation lies.
* `StagingRing.reserve`: a reservation, with the buffer it lies in.
-/

set_option autoImplicit false

namespace RenderBridge

/-- The staging buffer, if one is held, and where the next reservation starts. -/
structure StagingRing where
  buffer : Option BufferId
  capacity : Nat
  cursor : Nat
  lastSerial : Option FrameSerial
deriving DecidableEq

namespace StagingRing

/-- Reservations start at multiples of this. -/
def alignment : Nat := 256

/-- The label of the ring's buffer. -/
def label : String := "kiln staging ring"

/-- A ring of at least this capacity, without a buffer yet. -/
def ofCapacity (capacity : Nat) : StagingRing where
  buffer := none
  capacity := Word.alignUp (max capacity alignment) alignment
  cursor := 0
  lastSerial := none

/-- Rewinds the cursor where the serial is not that of the last reservation. -/
def rewind (r : StagingRing) (serial : FrameSerial) : StagingRing :=
  if r.lastSerial = some serial then r else { r with cursor := 0, lastSerial := some serial }

/-- The ring large enough for `length` bytes. Growing gives up the buffer. -/
def grow (r : StagingRing) (length : Nat) : StagingRing :=
  if r.capacity < length then
    { r with
      capacity := Word.alignUp (Word.grownCapacity length) alignment, buffer := none, cursor := 0 }
  else r

/-- Where `length` bytes go: behind the cursor, or at the start where they do not fit there. -/
def place (r : StagingRing) (length : Nat) : Nat :=
  let offset := Word.alignUp r.cursor alignment
  if offset + length ≤ r.capacity then offset else 0

/-- The ring with a reservation of `length` bytes placed, and the offset of it. -/
def settle (r : StagingRing) (length : Nat) (serial : FrameSerial) : Nat × StagingRing :=
  let r := (r.rewind serial).grow length
  let offset := r.place length
  (offset, { r with cursor := offset + length })

variable {δ P D : Type} [Device δ P D]

/-- Gives back the buffer that growing gives up. -/
def releaseOutgrown (before after : StagingRing) (device : δ) : δ :=
  match before.buffer, after.buffer with
  | some buffer, none => Device.releaseBuffer buffer device
  | _, _ => device

/-- The buffer of the ring, made where none is held. -/
def ensureBuffer (r : StagingRing) (device : δ) : Except Fault BufferId × StagingRing × δ :=
  match r.buffer with
  | some buffer => (.ok buffer, r, device)
  | none =>
    match Device.createBuffer r.capacity (some label) device with
    | (.ok buffer, device) => (.ok buffer, { r with buffer := some buffer }, device)
    | (.error fault, device) => (.error (.ofDevice fault), r, device)

/-- Reserves `length` bytes for the frame: the buffer, and the offset in it. The cursor moves also
where the buffer cannot be made. -/
def reserve (r : StagingRing) (length : Nat) (serial : FrameSerial) (device : δ) :
    Except Fault (BufferId × Nat) × StagingRing × δ :=
  let (offset, settled) := r.settle length serial
  let device := releaseOutgrown r settled device
  match settled.ensureBuffer device with
  | (.ok buffer, ring, device) => (.ok (buffer, offset), ring, device)
  | (.error fault, ring, device) => (.error fault, ring, device)

end StagingRing

end RenderBridge
