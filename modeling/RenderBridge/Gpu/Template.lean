import RenderBridge.Device.Basic
/-!
Keys as the state of explicit pipelines.

A pipeline there has its depth-stencil state built in, so what is compiled for a pipeline key is a
template, and a pipeline is built from it for each depth-stencil object it meets.

* `PipelineTemplate.of`: the template of a key and a layout.
* `DepthStencilTest.of`: the depth-stencil state of a key.
* `PipelineTemplate.describe`: the whole description of a pipeline.
-/

set_option autoImplicit false

namespace RenderBridge

/-- How the vertices of one buffer are read. -/
structure VertexBufferLayout where
  stride : Nat
  attributes : List VertexAttribute
deriving DecidableEq

/-- The description from which a device builds a pipeline. -/
structure PipelineDescription where
  vertexEntry : String
  buffers : List VertexBufferLayout
  fragmentEntry : String
  target : ColorTarget
  primitive : PrimitiveSetup
  depthStencil : DepthStencilTest
  multisample : Multisampling
deriving DecidableEq

/-- A pipeline but for its depth-stencil state. -/
structure PipelineTemplate where
  key : PipelineKey
  vertexStride : Nat
  attributes : List VertexAttribute
  target : ColorTarget
  primitive : PrimitiveSetup
  multisample : Multisampling
deriving DecidableEq

namespace PipelineTemplate

/-- The shader reads location 0 as floating-point values, so a layout needs such an attribute
there. -/
def checkPosition (layout : VertexLayout) : Except DeviceFault Unit :=
  match layout.elements.find? fun e => e.location = 0 with
  | some e =>
    if e.format.isFloat then .ok () else .error (.compilation (.positionNotFloat e.format))
  | none => .error (.compilation .positionMissing)

/-- The blending of a key, where it is enabled. -/
def blendOf (blend : BlendState) : Option BlendFunction :=
  if blend.enabled then
    some ⟨Token.blendComponent blend.srcRgb blend.dstRgb blend.equationRgb,
      Token.blendComponent blend.srcAlpha blend.dstAlpha blend.equationAlpha⟩
  else none

/-- The template of a key whose vertices are read as `stride` and `attributes` say. -/
def build (key : PipelineKey) (stride : Nat) (attributes : List VertexAttribute) :
    PipelineTemplate where
  key := key
  vertexStride := stride
  attributes := attributes
  target := { format := key.colorFormat, blend := blendOf key.blend }
  primitive :=
    { topology := key.topology
      frontFace := frontFace
      cullMode := Token.cullMode key.raster.cullEnabled key.raster.cullFace }
  multisample := { count := key.sampleCount }

/-- The template of a key; without a layout no vertices are read. -/
def of (key : PipelineKey) (layout : Option VertexLayout) : Except DeviceFault PipelineTemplate :=
  match layout with
  | none => .ok (build key 0 [])
  | some layout =>
    match checkPosition layout with
    | .ok () => .ok (build key layout.stride layout.attributes)
    | .error fault => .error fault

/-- Whether vertices are read from a buffer. -/
def hasVertexInput (t : PipelineTemplate) : Bool := !t.attributes.isEmpty

/-- The vertices of the template's buffer, if it reads one. -/
def buffers (t : PipelineTemplate) : List VertexBufferLayout :=
  if t.hasVertexInput then [⟨t.vertexStride, t.attributes⟩] else []

/-- The description of the pipeline for a depth-stencil state. Without vertices a triangle over the
whole target is generated. -/
def describe (t : PipelineTemplate) (depthStencil : DepthStencilTest) : PipelineDescription where
  vertexEntry := if t.hasVertexInput then "vs_main" else "vs_generated"
  buffers := t.buffers
  fragmentEntry := "fs_main"
  target := t.target
  primitive := t.primitive
  depthStencil := depthStencil
  multisample := t.multisample

end PipelineTemplate

/-- The stencil test of either face of a key. -/
def StencilFace.of (key : StencilKey) : StencilFace where
  compare := Token.compareFunction key.func
  failOp := Token.stencilOperation key.failOp
  depthFailOp := Token.stencilOperation key.depthFailOp
  passOp := Token.stencilOperation key.passOp

/-- The stencil test of a key. Masks act on eight bits. -/
def StencilTest.of (key : StencilKey) : StencilTest :=
  if key.enabled then
    ⟨StencilFace.of key, StencilFace.of key, key.readMask &&& 0xFF, key.writeMask &&& 0xFF⟩
  else .ignore

/-- The depth-stencil state of a key. Depth is written only while it is tested. -/
def DepthStencilTest.of (key : DepthStencilKey) : DepthStencilTest where
  format := depthStencilFormat
  depthWriteEnabled := key.depth.testEnabled && key.depth.writeEnabled
  depthCompare :=
    if key.depth.testEnabled then Token.compareFunction key.depth.compare else .always
  stencil := StencilTest.of key.stencil

end RenderBridge
