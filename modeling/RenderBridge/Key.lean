import RenderBridge.Bytes
import RenderBridge.Digest
import RenderBridge.Handle
import RenderBridge.Native.Primitive
import RenderBridge.State.Snapshot
/-!
The keys of compiled objects, derived from the render state. The two keys read disjoint parts of it:
a pipeline key has blending, culling and the draw's target, a depth-stencil key the depth and
stencil tests without the reference value. Scissor, viewport and reference are in neither.

* `PipelineKey.of`, `DepthStencilKey.of`: the keys of a draw.
* `PipelineKey.bytes`, `DepthStencilKey.bytes`: the keys as bytes. The formats of color targets are
  foreign; how one is written comes from outside.
* `digest`: the number that names a key in messages.
-/

set_option autoImplicit false

namespace RenderBridge

/-- What a draw goes to, beside the render state. -/
structure DrawTarget (Format : Type := TextureFormat) where
  colorFormat : Format := by exact .bgra8UnormSrgb
  sampleCount : UInt32 := 1
  topology : Topology := .triangleList
  vertexLayout : Option LayoutHandle := none
deriving DecidableEq

/-- What decides which pipeline a draw needs. -/
structure PipelineKey (Format : Type := TextureFormat) where
  blend : BlendState
  raster : RasterState
  colorFormat : Format
  sampleCount : UInt32
  topology : Topology
  vertexLayout : Option LayoutHandle
deriving DecidableEq

/-- The stencil test without its reference value. -/
structure StencilKey where
  enabled : Bool
  func : UInt32
  readMask : UInt32
  writeMask : UInt32
  failOp : UInt32
  depthFailOp : UInt32
  passOp : UInt32
deriving DecidableEq

/-- What decides which depth-stencil object a draw needs. -/
structure DepthStencilKey where
  depth : DepthState
  stencil : StencilKey
deriving DecidableEq

/-- The pipeline key of a draw. The sample count is at least one. -/
def PipelineKey.of {Format : Type} (s : Snapshot) (target : DrawTarget Format) :
    PipelineKey Format where
  blend := s.blend
  raster := s.raster
  colorFormat := target.colorFormat
  sampleCount := max target.sampleCount 1
  topology := target.topology
  vertexLayout := target.vertexLayout

/-- A stencil test without its reference value. -/
def StencilKey.of (s : StencilState) : StencilKey where
  enabled := s.enabled
  func := s.func
  readMask := s.readMask
  writeMask := s.writeMask
  failOp := s.failOp
  depthFailOp := s.depthFailOp
  passOp := s.passOp

/-- The depth-stencil key of a draw. -/
def DepthStencilKey.of (s : Snapshot) : DepthStencilKey := ⟨s.depth, StencilKey.of s.stencil⟩

/-! ### Bytes

Fields stand in order without gaps: a truth value in one byte, a token or mask in four, a code or a
handle in eight. Whether a handle is present comes in eight bytes before it. A format is written as
`encode` has it. -/

namespace KeyBytes

def bool (b : Bool) : List UInt8 := [if b then 1 else 0]

def word (w : UInt32) : List UInt8 := littleEndian 4 w.toNat

def code (n : Nat) : List UInt8 := littleEndian 8 n

def handle : Option LayoutHandle → List UInt8
  | none => code 0
  | some handle => code 1 ++ code handle.raw.toNat

end KeyBytes

/-- A format that has no more to it than its code is written as the code. -/
def TextureFormat.bytes (f : TextureFormat) : List UInt8 := KeyBytes.code f.code

open KeyBytes in
/-- The bytes of a pipeline key: 50 and those of its format, and 8 more with a vertex layout. -/
def PipelineKey.bytes {Format : Type} (encode : Format → List UInt8) (k : PipelineKey Format) :
    List UInt8 :=
  bool k.blend.enabled ++ word k.blend.srcRgb ++ word k.blend.dstRgb ++ word k.blend.srcAlpha ++
    word k.blend.dstAlpha ++ word k.blend.equationRgb ++ word k.blend.equationAlpha ++
    bool k.raster.cullEnabled ++ word k.raster.cullFace ++ encode k.colorFormat ++
    word k.sampleCount ++ code k.topology.code ++ handle k.vertexLayout

open KeyBytes in
/-- The 31 bytes of a depth-stencil key. -/
def DepthStencilKey.bytes (k : DepthStencilKey) : List UInt8 :=
  bool k.depth.testEnabled ++ bool k.depth.writeEnabled ++ word k.depth.compare ++
    bool k.stencil.enabled ++ word k.stencil.func ++ word k.stencil.readMask ++
    word k.stencil.writeMask ++ word k.stencil.failOp ++ word k.stencil.depthFailOp ++
    word k.stencil.passOp

/-! ### Digests -/

/-- The seed of the digests of keys. -/
def keySeed : UInt64 := 0x6b696c6e

/-- The number that names a pipeline key in messages. Look-ups compare the keys themselves. -/
def PipelineKey.digest (k : PipelineKey) : UInt64 :=
  Digest.xxh3 keySeed (k.bytes TextureFormat.bytes)

/-- The number that names a depth-stencil key in messages. Look-ups compare the keys themselves. -/
def DepthStencilKey.digest (k : DepthStencilKey) : UInt64 := Digest.xxh3 keySeed k.bytes

end RenderBridge
