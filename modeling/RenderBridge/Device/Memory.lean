import RenderBridge.Device.Basic
import RenderBridge.Table
/-!
A device in host memory. Its buffers can be read back, its compiled objects are records of their
keys, and every clear and draw is recorded, grouped by submission.

* `MemoryDevice.writeBuffer`, `copyBuffer`, `readBuffer`: buffer memory, with checked ranges and
  granules.
* `MemoryDevice.pending`, `submitted`: the work recorded since the last submission, and that of all
  submissions.
* `failPipelines`, `failDepthStencils`, `failEncodes`: how many of the next calls fail.
-/

set_option autoImplicit false

namespace RenderBridge

/-- A compiled pipeline: the device's count of attempts when it was made, a 32-bit word, and the key
it was compiled from. -/
structure CompiledPipeline where
  count : UInt32
  key : PipelineKey
deriving DecidableEq

/-- The number of a compiled pipeline. -/
def CompiledPipeline.id (p : CompiledPipeline) : Nat := p.count.toNat

/-- A compiled depth-stencil object: the device's count of attempts when it was made, a 32-bit word,
and the key it was compiled from. -/
structure CompiledDepthStencil where
  count : UInt32
  key : DepthStencilKey
deriving DecidableEq

/-- The number of a compiled depth-stencil object. -/
def CompiledDepthStencil.id (q : CompiledDepthStencil) : Nat := q.count.toNat

/-- A clear or a draw as it reached the device. Buffers appear with the offset they are bound at. -/
inductive RecordedWork
  | clear (color : Color)
  | draw (commands : List (DrawCommand CompiledPipeline CompiledDepthStencil)) (kind : DrawKind)
      (vertex index : Option (BufferId × Nat))
deriving DecidableEq

/-- What the presentation surface was told, with the names of the threads that told it. -/
structure SurfaceLog where
  geometry : List (SurfaceGeometry × String) := []
  detachedOn : Option String := none
deriving DecidableEq

/-- The state of a device in host memory. A host keeps the counts of buffers, copies and
presentations in 64 bits; as numbers they go on where that would overflow. -/
structure MemoryDevice where
  /-- The alignment asked for; `0` and `1` ask for none. -/
  alignment : Nat := 0
  /-- The number of buffers ever created. -/
  created : Nat := 0
  buffers : Table BufferId Bytes := {}
  copies : Nat := 0
  /-- Attempts to compile, failed ones included. What the device counts of them is a 32-bit word. -/
  pipelineCompilations : Nat := 0
  depthStencilCompilations : Nat := 0
  failPipelines : Nat := 0
  failDepthStencils : Nat := 0
  failEncodes : Nat := 0
  pending : List RecordedWork := []
  submitted : List (List RecordedWork) := []
  presents : Nat := 0
  targetWidth : Nat := 0
  targetHeight : Nat := 0
  surface : SurfaceLog := {}

namespace MemoryDevice

def bufferCount (d : MemoryDevice) : Nat := d.buffers.size

def submissions (d : MemoryDevice) : Nat := d.submitted.length

/-! ### Compiling -/

/-- The device's count of attempts to compile a pipeline. It starts over after the last word. -/
def pipelineCount (d : MemoryDevice) : UInt32 := .ofNat d.pipelineCompilations

/-- The device's count of attempts to compile a depth-stencil object. -/
def depthStencilCount (d : MemoryDevice) : UInt32 := .ofNat d.depthStencilCompilations

def compilePipeline (key : PipelineKey) (d : MemoryDevice) :
    Except DeviceFault CompiledPipeline × MemoryDevice :=
  let attempt := d.pipelineCompilations + 1
  if d.failPipelines = 0 then
    (.ok ⟨d.pipelineCount + 1, key⟩, { d with pipelineCompilations := attempt })
  else
    (.error (.compilation .pipelineFailureArmed),
      { d with pipelineCompilations := attempt, failPipelines := d.failPipelines - 1 })

def compileDepthStencil (key : DepthStencilKey) (d : MemoryDevice) :
    Except DeviceFault CompiledDepthStencil × MemoryDevice :=
  let attempt := d.depthStencilCompilations + 1
  if d.failDepthStencils = 0 then
    (.ok ⟨d.depthStencilCount + 1, key⟩, { d with depthStencilCompilations := attempt })
  else
    (.error (.compilation .depthStencilFailureArmed),
      { d with depthStencilCompilations := attempt, failDepthStencils := d.failDepthStencils - 1 })

/-! ### Buffer memory -/

/-- A new buffer of zeros. Buffers are numbered in the order in which they are made. -/
def createBuffer (size : Nat) (d : MemoryDevice) : Except DeviceFault BufferId × MemoryDevice :=
  match HostRoom.of size with
  | .tooLong => (.error (.resource (.exceedsHostMemory size)), d)
  | .exhausted => (.error (.resource (.hostMemoryExhausted size)), d)
  | .granted =>
    let id := d.created + 1
    (.ok id, { d with created := id, buffers := d.buffers.insert id (Bytes.zeros size) })

def releaseBuffer (id : BufferId) (d : MemoryDevice) : MemoryDevice :=
  { d with buffers := d.buffers.erase id }

/-- Refuses an offset or a length that is no multiple of the alignment, where one is asked for. -/
def checkGranule (alignment offset length : Nat) : Except DeviceFault Unit :=
  if 1 < alignment ∧ (offset % alignment ≠ 0 ∨ length % alignment ≠ 0) then
    .error (.invalidArgument (.misaligned offset length alignment))
  else .ok ()

/-- Refuses a range that leaves a buffer of `size` bytes. -/
def checkRange (size offset length : Nat) : Except DeviceFault Unit :=
  if offset + length ≤ size then .ok ()
  else .error (.invalidArgument (.outsideBuffer offset length size))

/-- The contents of a buffer; a buffer that is gone has none. -/
def contents (d : MemoryDevice) (id : BufferId) : Bytes := (d.buffers.get? id).getD #[]

def writeBuffer (id : BufferId) (offset : Nat) (bytes : Bytes) (d : MemoryDevice) :
    Except DeviceFault Unit × MemoryDevice :=
  match checkGranule d.alignment offset bytes.size with
  | .error fault => (.error fault, d)
  | .ok () =>
    match checkRange (d.contents id).size offset bytes.size with
    | .error fault => (.error fault, d)
    | .ok () =>
      (.ok (), { d with buffers := d.buffers.insert id ((d.contents id).overwrite offset bytes) })

def copyBuffer (source : BufferId) (sourceOffset : Nat) (target : BufferId) (targetOffset : Nat)
    (length : Nat) (d : MemoryDevice) : Except DeviceFault Unit × MemoryDevice :=
  match checkGranule d.alignment sourceOffset length with
  | .error fault => (.error fault, d)
  | .ok () =>
    match checkGranule d.alignment targetOffset length with
    | .error fault => (.error fault, d)
    | .ok () =>
      match checkRange (d.contents source).size sourceOffset length with
      | .error fault => (.error fault, d)
      | .ok () =>
        match writeBuffer target targetOffset ((d.contents source).slice sourceOffset length) d with
        | (.error fault, d) => (.error fault, d)
        | (.ok (), d) => (.ok (), { d with copies := d.copies + 1 })

def readBuffer (id : BufferId) (offset length : Nat) (d : MemoryDevice) : Option Bytes :=
  match checkRange (d.contents id).size offset length with
  | .error _ => none
  | .ok () => some ((d.contents id).slice offset length)

/-! ### Surface and frames -/

def applyGeometry (geometry : SurfaceGeometry) (thread : String) (d : MemoryDevice) :
    MemoryDevice :=
  { d with surface.geometry := d.surface.geometry ++ [(geometry, thread)] }

def detachSurface (thread : String) (d : MemoryDevice) : MemoryDevice :=
  { d with surface.detachedOn := some thread }

/-- Records work for the next submission. -/
def record (work : RecordedWork) (d : MemoryDevice) : MemoryDevice :=
  { d with pending := d.pending ++ [work] }

/-- The buffer and offset of a binding. -/
def place (binding : BufferBinding) : BufferId × Nat := (binding.buffer, binding.offset)

/-- Records a draw. An armed failure records the first command alone. -/
def encodeDraw (config : DrawConfig CompiledPipeline CompiledDepthStencil) (call : DrawCall)
    (d : MemoryDevice) : Except DeviceFault Unit × MemoryDevice :=
  match call.kind, call.index with
  | .indexed .., none => (.error (.invalidArgument .indexBufferMissing), d)
  | kind, index =>
    if d.failEncodes = 0 then
      (.ok (), d.record (.draw config.commands kind (call.vertex.map place) (index.map place)))
    else
      (.error (.resource .encodeFailureArmed),
        { d with failEncodes := d.failEncodes - 1 }.record
          (.draw (config.commands.take 1) kind none none))

def submit (d : MemoryDevice) : MemoryDevice :=
  { d with pending := [], submitted := d.submitted ++ [d.pending] }

instance : Device MemoryDevice CompiledPipeline CompiledDepthStencil where
  compilePipeline key _ d := compilePipeline key d
  compileDepthStencil := compileDepthStencil
  createLayout layout d := (.ok layout, d)
  createBuffer size _ d := createBuffer size d
  releaseBuffer := releaseBuffer
  copyAlignment d := max d.alignment 1
  writeBuffer := writeBuffer
  copyBuffer := copyBuffer
  applyGeometry := applyGeometry
  detachSurface := detachSurface
  resizeTargets width height d := (.ok (), { d with targetWidth := width, targetHeight := height })
  clear color d := (.ok (), d.record (.clear color))
  encodeDraw := encodeDraw
  submit d := (.ok (), d.submit)
  present d := (.ok (), { d with presents := d.presents + 1 })

instance : ReadableDevice MemoryDevice where
  readBuffer := readBuffer

end MemoryDevice

end RenderBridge
