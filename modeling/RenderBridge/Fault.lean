import RenderBridge.Device.Fault
/-!
What a rendering operation answers when it fails, and the status codes of the host boundary.

* `Cause`, `Cause.message`: why an argument or a request is refused, and its text.
* `Fault`, `Fault.message`, `Fault.status`: a failed operation.
* `Fault.ofDevice`: a device failure as a failed operation.
-/

set_option autoImplicit false

namespace RenderBridge

/-- What is wrong with one vertex attribute. -/
inductive AttributeDefect
  | indexOutOfRange (index : Int)
  | duplicateIndex (index : Nat)
  | negativeTypeOrCount
  | noFormat (type count : Nat) (normalized : Bool)
  | negativeOffset
  | overrun (format : VertexFormat) (offset stride : Nat)
deriving DecidableEq

/-- Why an operation is refused. -/
inductive Cause
  /-- The device's own reason. -/
  | device (cause : DeviceCause)
  -- Tokens
  | noNativeTopology (mode : UInt32)
  | unknownPrimitiveMode (mode : UInt32)
  | unsupportedIndexType (token : UInt32)
  | unknownBufferUsage (token : Int)
  | unknownVertexUsage (tag : Int)
  -- Render state
  | depthRangeNaN
  | depthRangeReversed (low high : Single)
  | viewportEmpty (width height : Int)
  | viewportReversed
  | scissorEmpty (width height : Int)
  -- Vertex layouts
  | strideNotPositive (stride : Int)
  | attributeCountNotPositive (count : Int)
  | packedLength (actual expected : Nat) (count : Int)
  | attributeDefect (position : Nat) (defect : AttributeDefect)
  | layoutHandlesExhausted
  | unknownLayout (handle : UInt64)
  -- Buffers
  | bufferSizeNotPositive (size : Int)
  | initialDataTooLong (length size : Nat)
  | bufferSizeOverflow
  | hostShadowTooLong (length : Nat)
  | hostShadowExhausted (length : Nat)
  | bufferHandlesExhausted
  | unknownBuffer (handle : UInt64)
  | negativeUpdate
  | updateOutsideBuffer (start stop size : Nat)
  | updateDataMissing
  | updateDataShort (actual length : Nat)
  | slotOutOfRange (slot count : Nat)
  | bufferNotReadable
  -- Context
  | drawableEmpty (width height : Int)
  | resizeEmpty (width height : Int)
  | negativeDrawRange (first count : Int)
  | negativeIndexCount (count : Int)
  | indexBufferUnbound
  | uiStopped
  | uiJobDropped
deriving DecidableEq

/-- The caches of compiled objects. -/
inductive ObjectKind
  | pipeline
  | depthStencil
deriving DecidableEq

/-- A failed operation. -/
inductive Fault
  | invalidArgument (cause : Cause)
  | alreadyOpen
  | openingFailed (cause : Cause)
  /-- The device refused to build the object for a key. -/
  | compilation (object : ObjectKind) (key : UInt64) (reason : DeviceCause)
deriving DecidableEq

/-- The status codes that the host sees. -/
inductive Status
  | ok
  | alreadyOpen
  | invalidArgument
  | openingFailed
deriving DecidableEq

/-! ### Texts -/

def AttributeDefect.message : AttributeDefect → String
  | indexOutOfRange index => s!"index {index} out of range"
  | duplicateIndex index => s!"duplicate index {index}"
  | negativeTypeOrCount => "negative type or count"
  | noFormat type count normalized =>
      s!"no vertex format for type {Hex.short type} x{count} (normalized={normalized})"
  | negativeOffset => "negative offset"
  | overrun format offset stride => s!"{format.name} at offset {offset} overruns stride {stride}"

/-- The text of a cause. -/
def Cause.message : Cause → String
  | device cause => cause.message
  | noNativeTopology mode => s!"primitive mode {Hex.short mode.toNat} has no native topology"
  | unknownPrimitiveMode mode => s!"unknown primitive mode {Hex.short mode.toNat}"
  | unsupportedIndexType token => s!"unsupported index type {Hex.short token.toNat}"
  | unknownBufferUsage token => s!"unknown buffer usage {token}"
  | unknownVertexUsage tag => s!"unknown vertex usage tag {tag}"
  | depthRangeNaN => "viewport depth range contains NaN"
  | depthRangeReversed low high =>
      s!"viewport min depth {low.text} exceeds max depth {high.text}"
  | viewportEmpty width height => s!"viewport {width}x{height} has no area"
  | viewportReversed => "viewport depth range is inverted"
  | scissorEmpty width height => s!"scissor {width}x{height} has no area"
  | strideNotPositive stride => s!"vertex stride must be positive, got {stride}"
  | attributeCountNotPositive count => s!"attribute count must be positive, got {count}"
  | packedLength actual expected count =>
      s!"packed attributes are {actual} bytes, expected {expected} for {count} attribute(s)"
  | attributeDefect position defect => s!"attribute {position}: {defect.message}"
  | layoutHandlesExhausted => "vertex layout ids exhausted"
  | unknownLayout handle => s!"unknown vertex layout {handle.toNat}"
  | bufferSizeNotPositive size => s!"buffer size must be positive, got {size}"
  | initialDataTooLong length size =>
      s!"initial data ({length} bytes) exceeds buffer size ({size} bytes)"
  | bufferSizeOverflow => "buffer size overflows"
  | hostShadowTooLong length => s!"no host shadow for {length} bytes"
  | hostShadowExhausted length => s!"host shadow of {length} bytes: memory allocation failed " ++
      "because the memory allocator returned an error"
  | bufferHandlesExhausted => "buffer ids exhausted"
  | unknownBuffer handle => s!"unknown buffer {handle.toNat}"
  | negativeUpdate => "buffer update offset and length must be non-negative"
  | updateOutsideBuffer start stop size => s!"update {start}..{stop} exceeds buffer size {size}"
  | updateDataMissing => "update data is missing"
  | updateDataShort actual length => s!"update data ({actual} bytes) shorter than length {length}"
  | slotOutOfRange slot count => s!"slot {slot} of {count}"
  | bufferNotReadable => "buffer is not readable"
  | drawableEmpty width height => s!"drawable size must be positive, got {width}x{height}"
  | resizeEmpty width height => s!"resize to {width}x{height}"
  | negativeDrawRange first count => s!"draw range {first}+{count}"
  | negativeIndexCount count => s!"negative index count {count}"
  | indexBufferUnbound => "indexed draw without a bound index buffer"
  | uiStopped => "ui thread is no longer running"
  | uiJobDropped => "ui job dropped before completing"

def ObjectKind.text : ObjectKind → String
  | pipeline => "pipeline"
  | depthStencil => "depth-stencil"

namespace Fault

/-- The text of a failed operation. -/
def message : Fault → String
  | invalidArgument cause => s!"invalid argument: {cause.message}"
  | alreadyOpen => "a rendering context is already initialized"
  | openingFailed cause => s!"initialization failed: {cause.message}"
  | compilation object key reason =>
      s!"{object.text} compilation failed (key {Hex.word64 key}): {reason.message}"

/-- The status under which a failure is reported to the host. -/
def status : Fault → Status
  | invalidArgument _ => .invalidArgument
  | alreadyOpen => .alreadyOpen
  | openingFailed _ | compilation .. => .openingFailed

/-- A device failure as a failed operation. -/
def ofDevice (fault : DeviceFault) : Fault :=
  match fault.kind with
  | .invalidArgument => invalidArgument (.device fault.cause)
  | .compilation | .resource => openingFailed (.device fault.cause)

end Fault

namespace Status

/-- The status of the result of an operation. -/
def of {α : Type} : Except Fault α → Status
  | .ok _ => ok
  | .error fault => fault.status

def code : Status → Nat
  | ok => 0
  | alreadyOpen => 1
  | invalidArgument => 2
  | openingFailed => 3

end Status

end RenderBridge
