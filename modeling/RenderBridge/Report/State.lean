import RenderBridge.Config
import RenderBridge.Key
import RenderBridge.Report.Basic
import RenderBridge.Vertex.Layout
/-!
Reports of render state, keys, configurations and vertex layouts.
-/

set_option autoImplicit false

namespace RenderBridge

open Report

def LayoutHandle.report (h : LayoutHandle) : Report := nat h.raw.toNat

def BufferHandle.report (h : BufferHandle) : Report := nat h.raw.toNat

def BlendState.report (s : BlendState) : Report := record [
  ("enabled", flag s.enabled), ("src_rgb", word s.srcRgb), ("dst_rgb", word s.dstRgb),
  ("src_alpha", word s.srcAlpha), ("dst_alpha", word s.dstAlpha),
  ("equation_rgb", word s.equationRgb), ("equation_alpha", word s.equationAlpha)]

def DepthState.report (s : DepthState) : Report := record [
  ("test_enabled", flag s.testEnabled), ("write_enabled", flag s.writeEnabled),
  ("compare", word s.compare)]

def StencilState.report (s : StencilState) : Report := record [
  ("enabled", flag s.enabled), ("func", word s.func), ("reference", number s.reference),
  ("read_mask", word s.readMask), ("write_mask", word s.writeMask), ("fail_op", word s.failOp),
  ("depth_fail_op", word s.depthFailOp), ("pass_op", word s.passOp)]

def RasterState.report (s : RasterState) : Report := record [
  ("cull_enabled", flag s.cullEnabled), ("cull_face", word s.cullFace)]

def ScissorState.report (s : ScissorState) : Report := record [
  ("enabled", flag s.enabled), ("x", number s.x), ("y", number s.y), ("width", number s.width),
  ("height", number s.height)]

def ViewportState.report (s : ViewportState) : Report := record [
  ("x", number s.x), ("y", number s.y), ("width", number s.width), ("height", number s.height),
  ("min_depth", single s.minDepth), ("max_depth", single s.maxDepth)]

def Snapshot.report (s : Snapshot) : Report := record [
  ("blend", s.blend.report), ("depth", s.depth.report), ("stencil", s.stencil.report),
  ("raster", s.raster.report), ("scissor", s.scissor.report), ("viewport", s.viewport.report)]

def PipelineKey.report (k : PipelineKey) : Report := record [
  ("blend", k.blend.report), ("raster", k.raster.report),
  ("color_format", text k.colorFormat.name), ("sample_count", word k.sampleCount),
  ("topology", text k.topology.name), ("vertex_layout", option LayoutHandle.report k.vertexLayout)]

def StencilKey.report (k : StencilKey) : Report := record [
  ("enabled", flag k.enabled), ("func", word k.func), ("read_mask", word k.readMask),
  ("write_mask", word k.writeMask), ("fail_op", word k.failOp),
  ("depth_fail_op", word k.depthFailOp), ("pass_op", word k.passOp)]

def DepthStencilKey.report (k : DepthStencilKey) : Report := record [
  ("depth", k.depth.report), ("stencil", k.stencil.report)]

def Config.report (c : Config) : Report := record [
  ("width", number c.width), ("height", number c.height), ("debug_flags", nat c.debugFlags.bits),
  ("color_format", text c.colorFormat.name), ("sample_count", word c.sampleCount),
  ("staging_capacity", nat c.stagingCapacity)]

def VertexAttribute.report (a : VertexAttribute) : Report := record [
  ("format", text a.format.name), ("offset", nat a.offset), ("shader_location", nat a.location)]

def VertexElement.report (e : VertexElement) : Report := record [
  ("shader_location", nat e.location), ("usage", text e.usage.name),
  ("format", text e.format.name), ("offset", nat e.offset), ("uv_index", nat e.uvIndex)]

def VertexLayout.report (l : VertexLayout) : Report := record [
  ("stride", nat l.stride), ("elements", list VertexElement.report l.elements),
  ("attributes", list VertexAttribute.report l.attributes),
  ("position", option (fun e => nat e.location) l.position)]

end RenderBridge
