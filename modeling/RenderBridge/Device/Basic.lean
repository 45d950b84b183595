import RenderBridge.Draw.Command
import RenderBridge.Vertex.Layout
/-!
What the engine asks of a device. A call takes the device's state and gives its answer with the
state after it; a call that fails gives a state too.
-/

set_option autoImplicit false

namespace RenderBridge

/-- The geometry given to the presentation surface when the drawable changes. -/
structure SurfaceGeometry where
  width : Nat
  height : Nat
  scale : Single
  fullscreen : Bool
deriving DecidableEq

/-- Devices with state `δ`, compiled pipelines `P` and depth-stencil objects `D`. -/
class Device (δ : Type) (P D : outParam Type) where
  compilePipeline : PipelineKey → Option VertexLayout → δ → Except DeviceFault P × δ
  compileDepthStencil : DepthStencilKey → δ → Except DeviceFault D × δ
  /-- The device's own form of a layout. -/
  createLayout : VertexLayout → δ → Except DeviceFault VertexLayout × δ
  createBuffer : Nat → Option String → δ → Except DeviceFault BufferId × δ
  /-- Gives a buffer back to the device. -/
  releaseBuffer : BufferId → δ → δ
  /-- Offsets and lengths of writes and copies must be multiples of this. -/
  copyAlignment : δ → Nat
  writeBuffer : BufferId → Nat → Bytes → δ → Except DeviceFault Unit × δ
  /-- Copies between buffers: source and its offset, destination and its offset, length. -/
  copyBuffer : BufferId → Nat → BufferId → Nat → Nat → δ → Except DeviceFault Unit × δ
  /-- Tells the surface its new geometry, on the thread of this name. -/
  applyGeometry : SurfaceGeometry → String → δ → δ
  /-- Parts from the surface, on the thread of this name. -/
  detachSurface : String → δ → δ
  resizeTargets : Nat → Nat → δ → Except DeviceFault Unit × δ
  clear : Color → δ → Except DeviceFault Unit × δ
  encodeDraw : DrawConfig P D → DrawCall → δ → Except DeviceFault Unit × δ
  /-- Hands over all work recorded since the last submission. -/
  submit : δ → Except DeviceFault Unit × δ
  present : δ → Except DeviceFault Unit × δ

/-- Devices whose buffers can be read back. -/
class ReadableDevice (δ : Type) where
  /-- The bytes of a range; none where it leaves the buffer. -/
  readBuffer : BufferId → Nat → Nat → δ → Option Bytes

end RenderBridge
