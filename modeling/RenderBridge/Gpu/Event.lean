import RenderBridge.Gpu.Template
/-!
The calls that reach a graphics device, as a log of events.

Buffers, textures, encoders, pipelines and the textures acquired from surfaces are numbered from 1
in the order in which they are made, each kind on its own.
-/

set_option autoImplicit false

namespace RenderBridge

/-- A texture seen as an attachment: one of the device's own, or one acquired from a surface. -/
inductive TextureView
  | texture (number : Nat)
  | frame (number : Nat)
deriving DecidableEq

/-- What an attachment holds when a pass begins. -/
inductive LoadOp (α : Type)
  | load
  | clear (value : α)
deriving DecidableEq

/-- How a surface is configured. -/
structure SurfaceConfig where
  format : TextureFormat
  width : Nat
  height : Nat
  presentMode : PresentMode
  alphaMode : AlphaMode
  /-- How many frames may wait to be shown. -/
  latency : Nat
deriving DecidableEq

/-- The color attachment of a pass. What is drawn is always stored. -/
structure ColorAttachment where
  view : TextureView
  resolve : Option TextureView
  load : LoadOp Color
deriving DecidableEq

/-- The depth-stencil attachment of a pass. What is drawn is always stored. -/
structure DepthAttachment where
  view : TextureView
  depth : LoadOp Single
  stencil : LoadOp Nat
deriving DecidableEq

/-- What a buffer or texture may be used for, as bits. -/
abbrev UsageBits := Nat

/-- A call on the device. -/
inductive GpuEvent
  -- Opening
  | createInstance (flags : Nat) (allBackends : Bool)
  | createSurface
  | requestAdapter (power : PowerPreference) (forSurface forceFallback : Bool)
  | requestDevice (label : Option String) (noFeatures defaultLimits : Bool)
      (memoryHints trace : String)
  | configure (usage : UsageBits) (config : SurfaceConfig) (viewFormats : Nat)
  | createShader (label : Option String) (source : String)
  | createPipelineLayout (label : Option String) (bindGroups immediateSize : Nat)
  -- Resources
  | createBuffer (number : Nat) (label : Option String) (size : Nat) (usage : UsageBits)
      (mapped : Bool)
  | writeBuffer (number offset : Nat) (bytes : Bytes)
  | createTexture (number : Nat) (label : Option String) (width height layers : Nat)
      (samples : UInt32) (format : TextureFormat) (usage : UsageBits) (mipLevels : Nat)
      (dimension : String)
  | createView (view : TextureView)
  | pushErrorScope (filter : String)
  | popErrorScope
  | createPipeline (number : Nat) (label : Option String) (description : PipelineDescription)
  -- Frames
  | acquire (frame : Nat)
  | acquireFailed (status : SurfaceStatus)
  | present (frame : Nat)
  | discard (frame : Nat)
  | createEncoder (number : Nat) (label : Option String)
  | copy (encoder source sourceOffset target targetOffset length : Nat)
  | finish (encoder : Nat)
  | submit (encoders : List Nat)
  -- Passes
  | beginPass (encoder : Nat) (label : Option String) (color : ColorAttachment)
      (depthStencil : DepthAttachment)
  | setPipeline (number : Nat)
  | setScissor (x y width height : Nat)
  | setViewport (rect : ViewportRect)
  | setStencilReference (value : Nat)
  | setVertexBuffer (slot buffer offset size : Nat)
  | setIndexBuffer (buffer : Nat) (format : IndexFormat) (offset size : Nat)
  | draw (first stop firstInstance stopInstance : Nat)
  | drawIndexed (first stop : Nat) (baseVertex : Int) (firstInstance stopInstance : Nat)
deriving DecidableEq

end RenderBridge
