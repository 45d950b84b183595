import RenderBridge.Number.Single
import RenderBridge.Token
/-!
The legacy render state at one point in time. Tokens are kept as the raw numbers they were given.

* `Snapshot.same`: agreement field by field, with depths compared as numbers.
-/

set_option autoImplicit false

namespace RenderBridge

/-- Blending, as legacy numbers. -/
structure BlendState where
  enabled : Bool := false
  srcRgb : UInt32 := Token.one
  dstRgb : UInt32 := Token.zero
  srcAlpha : UInt32 := Token.one
  dstAlpha : UInt32 := Token.zero
  equationRgb : UInt32 := Token.funcAdd
  equationAlpha : UInt32 := Token.funcAdd
deriving DecidableEq

/-- The depth test. -/
structure DepthState where
  testEnabled : Bool := false
  writeEnabled : Bool := true
  compare : UInt32 := Token.lessEqual
deriving DecidableEq

/-- The stencil test, with its reference value. -/
structure StencilState where
  enabled : Bool := false
  func : UInt32 := Token.always
  reference : Int := 0
  readMask : UInt32 := 0xFF
  writeMask : UInt32 := 0xFF
  failOp : UInt32 := Token.keep
  depthFailOp : UInt32 := Token.keep
  passOp : UInt32 := Token.keep
deriving DecidableEq

/-- Culling. -/
structure RasterState where
  cullEnabled : Bool := true
  cullFace : UInt32 := Token.back
deriving DecidableEq

/-- The scissor rectangle, with the origin at the lower left. -/
structure ScissorState where
  enabled : Bool := false
  x : Int := 0
  y : Int := 0
  width : Int := 1
  height : Int := 1
deriving DecidableEq

/-- The viewport, with the origin at the lower left, and its depth range. -/
structure ViewportState where
  x : Int := 0
  y : Int := 0
  width : Int := 1
  height : Int := 1
  minDepth : Single := .zero
  maxDepth : Single := .one
deriving DecidableEq

/-- The whole render state. -/
structure Snapshot where
  blend : BlendState := {}
  depth : DepthState := {}
  stencil : StencilState := {}
  raster : RasterState := {}
  scissor : ScissorState := {}
  viewport : ViewportState := {}
deriving DecidableEq

namespace ViewportState

/-- Agreement of two viewports; the two zeros are one depth. -/
def same (a b : ViewportState) : Bool :=
  a.x == b.x && a.y == b.y && a.width == b.width && a.height == b.height &&
    a.minDepth.eq b.minDepth && a.maxDepth.eq b.maxDepth

end ViewportState

namespace Snapshot

/-- Agreement field by field. -/
def same (a b : Snapshot) : Bool :=
  a.blend == b.blend && a.depth == b.depth && a.stencil == b.stencil && a.raster == b.raster &&
    a.scissor == b.scissor && a.viewport.same b.viewport

end Snapshot

end RenderBridge
