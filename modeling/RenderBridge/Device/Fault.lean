import RenderBridge.Native.Format
import RenderBridge.Native.Presentation
import RenderBridge.Number.Shortest
import RenderBridge.Text.Hex
/-!
What a device reports when it fails: a kind, and a cause with its text.
-/

set_option autoImplicit false

namespace RenderBridge

/-- Why a device call failed. -/
inductive DeviceCause
  /-- A text given from outside. -/
  | text (message : String)
  -- Memory
  | exceedsHostMemory (size : Nat)
  | hostMemoryExhausted (size : Nat)
  | misaligned (offset length alignment : Nat)
  | outsideBuffer (offset length size : Nat)
  | exceedsDeviceLimit (size limit : Nat)
  -- Compiling
  | pipelineFailureArmed
  | depthStencilFailureArmed
  | targetMismatch (format : TextureFormat) (samples : UInt32)
      (surfaceFormat : TextureFormat) (surfaceSamples : UInt32)
  | positionNotFloat (format : VertexFormat)
  | positionMissing
  | pipelineRejected (pipeline depthStencil : UInt64) (reason : String)
  | strideMisaligned (stride alignment : Nat)
  -- Frames
  | encodeFailureArmed
  | indexBufferMissing
  | vertexBufferMissing
  | targetsNotReady
  | emptyTargets (width height : Nat)
  | viewportOutsideRange (x y width height : Single)
  | surfaceDetached
  | surfaceReconfigured
  | surfaceUnavailable (status : SurfaceStatus)
  -- Opening
  | emptyDrawable
  | noSurface (window : WindowHandle)
  | noAdapter
  | noDevice
  | formatUnsupported (format : TextureFormat) (supported : List TextureFormat)
  | samplesUnsupported (samples : UInt32) (format : TextureFormat)
deriving DecidableEq

/-- The broad kinds of device failures. -/
inductive DeviceFault.Kind
  | invalidArgument
  | compilation
  | resource
deriving DecidableEq

/-- A failure that a device reports. -/
structure DeviceFault where
  kind : DeviceFault.Kind
  cause : DeviceCause
deriving DecidableEq

namespace DeviceCause

/-- What the device says of a surface status that comes without a texture. -/
def statusText : SurfaceStatus → String
  | .timeout => "A timeout was encountered while trying to acquire the next frame"
  | .unknown => "Acquiring a texture failed with a generic error. " ++
      "Check error callbacks for more information"
  | status => status.name

/-- What the device says of a window that gives no handle. -/
def windowText : WindowHandle → String
  | .unsupported =>
      "the underlying handle cannot be represented using the types in this crate"
  | .unavailable => "the underlying handle is not available"
  | .available => "the underlying handle is available"

/-- A list of formats in brackets. -/
def formatsText (formats : List TextureFormat) : String :=
  "[" ++ ", ".intercalate (formats.map TextureFormat.name) ++ "]"

/-- A rectangle in brackets. -/
def rectText (x y width height : Single) : String :=
  "[" ++ ", ".intercalate ([x, y, width, height].map Single.pointText) ++ "]"

/-- The text of a cause. -/
def message : DeviceCause → String
  | text message => message
  | exceedsHostMemory size => s!"{size} bytes exceed host memory"
  | hostMemoryExhausted size => s!"{size} bytes: memory allocation failed because the memory " ++
      "allocator returned an error"
  | misaligned offset length alignment =>
      s!"offset {offset} and length {length} must be multiples of {alignment}"
  | outsideBuffer offset length size => s!"range {offset}+{length} outside buffer of {size} bytes"
  | exceedsDeviceLimit size limit => s!"{size} bytes exceeds the device buffer limit of {limit}"
  | pipelineFailureArmed => "injected pipeline failure"
  | depthStencilFailureArmed => "injected depth-stencil failure"
  | targetMismatch format samples surfaceFormat surfaceSamples =>
      s!"pipeline targets {format.name} x{samples.toNat} but the surface is " ++
      s!"{surfaceFormat.name} x{surfaceSamples.toNat}"
  | positionNotFloat format => s!"location 0 must be float-typed, got {format.name}"
  | positionMissing => "vertex layout has no attribute at location 0"
  | pipelineRejected pipeline depthStencil reason =>
      s!"pipeline {Hex.word64 pipeline} x depth-stencil {Hex.word64 depthStencil}: {reason}"
  | strideMisaligned stride alignment =>
      s!"vertex stride {stride} must be a multiple of {alignment}"
  | encodeFailureArmed => "injected encode failure"
  | indexBufferMissing => "indexed draw without index buffer"
  | vertexBufferMissing => "pipeline expects a vertex buffer"
  | targetsNotReady => "render targets are not ready"
  | emptyTargets width height => s!"targets of {width}x{height}"
  | viewportOutsideRange x y width height =>
      s!"viewport {rectText x y width height} outside the device range"
  | surfaceDetached => "surface is detached"
  | surfaceReconfigured => "surface reconfigured; frame skipped"
  | surfaceUnavailable .outOfMemory => "out of memory acquiring surface texture"
  | surfaceUnavailable status => s!"surface texture unavailable: {statusText status}"
  | emptyDrawable => "drawable has zero size"
  | noSurface window => s!"failed to create wgpu surface: {windowText window}"
  | noAdapter => "failed to find a suitable GPU adapter: WGPU_ADAPTER_NAME not set"
  | noDevice => "failed to create wgpu device/queue: Parent device is lost"
  | formatUnsupported format supported =>
      s!"color format {format.name} not supported by the surface " ++
      s!"(supported: {formatsText supported})"
  | samplesUnsupported samples format =>
      s!"{samples.toNat}x multisampling not supported for {format.name}"

end DeviceCause

namespace DeviceFault

def invalidArgument (cause : DeviceCause) : DeviceFault := ⟨.invalidArgument, cause⟩
def compilation (cause : DeviceCause) : DeviceFault := ⟨.compilation, cause⟩
def resource (cause : DeviceCause) : DeviceFault := ⟨.resource, cause⟩

/-- The text of a device failure is that of its cause. -/
def message (fault : DeviceFault) : String := fault.cause.message

end DeviceFault

end RenderBridge
