import RenderBridge.Buffer.Record
import RenderBridge.Buffer.Ring
import RenderBridge.Table
/-!
The logical buffers of a context. A static buffer is written directly; a dynamic one is written
through the staging ring and a copy on the device, into the slot of the current frame.

* `BufferAllocator.create`: a new buffer, with initial data in every slot. A creation that fails
  gives back what it took, and its handle is issued next.
* `BufferAllocator.update`: bytes written into the slot of a frame.
* `BufferAllocator.destroy`, `binding`: the end of a buffer, and the range a draw reads.
-/

set_option autoImplicit false

namespace RenderBridge

/-- The live buffers, the number of the next one, and the staging ring. -/
structure BufferAllocator where
  records : Table BufferHandle BufferRecord := {}
  /-- A host keeps it in 64 bits, which the number behind the last handle overflows; here no handle
  is left then. -/
  nextNumber : Nat := 1
  ring : StagingRing
  /-- Whether device buffers carry labels. -/
  labels : Bool

namespace BufferAllocator

def ofConfig (stagingCapacity : Nat) (labels : Bool) : BufferAllocator where
  ring := .ofCapacity stagingCapacity
  labels := labels

def liveBuffers (a : BufferAllocator) : Nat := a.records.size

/-- The buffer under a handle. -/
def find (a : BufferAllocator) (handle : BufferHandle) : Except Fault BufferRecord :=
  match a.records.get? handle with
  | some record => .ok record
  | none => .error (.invalidArgument (.unknownBuffer handle.raw))

/-- The range that draws of a frame read. -/
def binding (a : BufferAllocator) (handle : BufferHandle) (serial : FrameSerial) :
    Except Fault BufferBinding :=
  match a.find handle with
  | .ok record => .ok (record.binding serial)
  | .error fault => .error fault

/-! ### Creating -/

/-- Checks a request for a buffer. The answer is the size of a slot. -/
def checkCreate (usage : BufferUsage) (size : Int) (data : Option Bytes) (granule : Nat) :
    Except Fault Nat :=
  if size ≤ 0 then .error (.invalidArgument (.bufferSizeNotPositive size))
  else
    let length := (data.map Array.size).getD 0
    if size.toNat < length then
      .error (.invalidArgument (.initialDataTooLong length size.toNat))
    else
      let slotSize := usage.slotSize size.toNat granule
      if Word.range ≤ slotSize * usage.slotCount then
        .error (.invalidArgument .bufferSizeOverflow)
      else .ok slotSize

/-- The shadow of a new allocation, for a device that copies in granules. Host memory is asked for
it once more, after the device has made its buffer, and may answer otherwise. -/
def newShadow (host : HostMemory) (granule total : Nat) : Except Fault (Option Bytes) :=
  if granule ≤ 1 then .ok none
  else
    match host.room total with
    | .granted => .ok (some (Bytes.zeros total))
    | .tooLong => .error (.openingFailed (.hostShadowTooLong total))
    | .exhausted => .error (.openingFailed (.hostShadowExhausted total))

/-- The label of the next buffer, where labels are wanted. -/
def nextLabel (a : BufferAllocator) (usage : BufferUsage) : Option String :=
  if a.labels then some s!"kiln {usage.name} buffer #{a.nextNumber}" else none

variable {δ P D : Type} [Device δ P D]

/-- The granule in which the device writes and copies. -/
def granule (device : δ) : Nat := max (Device.copyAlignment device) 1

/-- Writes the same bytes to the start of each of the slots. -/
def writeSlots (bytes : Bytes) :
    List Nat → BufferRecord → δ → Except Fault BufferRecord × δ
  | [], record, device => (.ok record, device)
  | slot :: rest, record, device =>
    let (upload, record) := record.stage (record.slotOffset slot) bytes (granule device)
    match Device.writeBuffer record.buffer upload.offset upload.bytes device with
    | (.ok (), device) => writeSlots bytes rest record device
    | (.error fault, device) => (.error (.ofDevice fault), device)

/-- The shadow and the initial contents of a new buffer. -/
def fill (host : HostMemory) (record : BufferRecord) (data : Option Bytes) (device : δ) :
    Except Fault BufferRecord × δ :=
  match newShadow host (granule device) record.total with
  | .error fault => (.error fault, device)
  | .ok shadow =>
    let record := { record with shadow }
    match data with
    | some bytes =>
      if bytes.isEmpty then (.ok record, device)
      else writeSlots bytes (List.range record.slotCount) record device
    | none => (.ok record, device)

/-- Takes a filled buffer in under the next handle. -/
def issue (a : BufferAllocator) (record : BufferRecord) :
    Except Fault BufferHandle × BufferAllocator :=
  match BufferHandle.nth? a.nextNumber with
  | some handle =>
    (.ok handle,
      { a with records := a.records.insert handle record, nextNumber := a.nextNumber + 1 })
  | none => (.error (.invalidArgument .bufferHandlesExhausted), a)

/-- A new buffer of `size` bytes. -/
def create (a : BufferAllocator) (usage : BufferUsage) (size : Int) (data : Option Bytes)
    (device : δ) (host : HostMemory := .ample) : Except Fault BufferHandle × BufferAllocator × δ :=
  match checkCreate usage size data (granule device) with
  | .error fault => (.error fault, a, device)
  | .ok slotSize =>
    match Device.createBuffer (slotSize * usage.slotCount) (a.nextLabel usage) device with
    | (.error fault, device) => (.error (.ofDevice fault), a, device)
    | (.ok buffer, device) =>
      match fill host ⟨usage, size.toNat, slotSize, buffer, none⟩ data device with
      | (.error fault, device) => (.error fault, a, Device.releaseBuffer buffer device)
      | (.ok record, device) =>
        match a.issue record with
        | (.ok handle, a) => (.ok handle, a, device)
        | (.error fault, a) => (.error fault, a, Device.releaseBuffer buffer device)

/-! ### Updating -/

/-- An update that may go ahead. -/
structure Update where
  record : BufferRecord
  offset : Nat
  payload : Bytes

/-- Checks an update. An update of no bytes needs no data and writes nothing. -/
def checkUpdate (a : BufferAllocator) (handle : BufferHandle) (offset : Int)
    (data : Option Bytes) (length : Int) : Except Fault (Option Update) :=
  if offset < 0 ∨ length < 0 then .error (.invalidArgument .negativeUpdate)
  else
    match a.find handle with
    | .error fault => .error fault
    | .ok record =>
      let stop := offset.toNat + length.toNat
      if record.size < stop then
        .error (.invalidArgument (.updateOutsideBuffer offset.toNat stop record.size))
      else if length = 0 then .ok none
      else
        match data with
        | none => .error (.invalidArgument .updateDataMissing)
        | some bytes =>
          if bytes.size < length.toNat then
            .error (.invalidArgument (.updateDataShort bytes.size length.toNat))
          else .ok (some ⟨record, offset.toNat, bytes.slice 0 length.toNat⟩)

/-- Sends an upload through the staging ring. -/
def uploadStaged (ring : StagingRing) (buffer : BufferId) (upload : Upload) (serial : FrameSerial)
    (device : δ) : Except Fault Unit × StagingRing × δ :=
  match ring.reserve upload.bytes.size serial device with
  | (.error fault, ring, device) => (.error fault, ring, device)
  | (.ok (staging, offset), ring, device) =>
    match Device.writeBuffer staging offset upload.bytes device with
    | (.error fault, device) => (.error (.ofDevice fault), ring, device)
    | (.ok (), device) =>
      match Device.copyBuffer staging offset buffer upload.offset upload.bytes.size device with
      | (.error fault, device) => (.error (.ofDevice fault), ring, device)
      | (.ok (), device) => (.ok (), ring, device)

/-- Writes `length` bytes of `data` at an offset of the slot of the frame. The shadow is brought up
to date before the device is asked, and stays so where the device fails. -/
def update (a : BufferAllocator) (handle : BufferHandle) (offset : Int) (data : Option Bytes)
    (length : Int) (serial : FrameSerial) (device : δ) :
    Except Fault Unit × BufferAllocator × δ :=
  match a.checkUpdate handle offset data length with
  | .error fault => (.error fault, a, device)
  | .ok none => (.ok (), a, device)
  | .ok (some update) =>
    let (upload, record) :=
      update.record.stage (update.record.activeOffset serial + update.offset) update.payload
        (granule device)
    let a := { a with records := a.records.insert handle record }
    match record.usage with
    | .unchanging =>
      match Device.writeBuffer record.buffer upload.offset upload.bytes device with
      | (.ok (), device) => (.ok (), a, device)
      | (.error fault, device) => (.error (.ofDevice fault), a, device)
    | .changing =>
      let (result, ring, device) := uploadStaged a.ring record.buffer upload serial device
      (result, { a with ring }, device)

/-! ### Destroying -/

/-- Ends a buffer and gives its allocation back. -/
def destroy (a : BufferAllocator) (handle : BufferHandle) (device : δ) :
    Except Fault Unit × BufferAllocator × δ :=
  match a.find handle with
  | .error fault => (.error fault, a, device)
  | .ok record =>
    (.ok (), { a with records := a.records.erase handle },
      Device.releaseBuffer record.buffer device)

end BufferAllocator

end RenderBridge
