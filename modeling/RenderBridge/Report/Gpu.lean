import RenderBridge.Gpu.Device
import RenderBridge.Gpu.Shader
import RenderBridge.Report.Work
/-!
Reports of pipelines and of the calls on a graphics machine.
-/

set_option autoImplicit false

namespace RenderBridge

open Report

def BlendComponent.report (c : BlendComponent) : Report := record [
  ("src_factor", text c.srcFactor.name), ("dst_factor", text c.dstFactor.name),
  ("operation", text c.operation.name)]

def BlendFunction.report (b : BlendFunction) : Report := record [
  ("color", b.color.report), ("alpha", b.alpha.report)]

def ColorTarget.report (t : ColorTarget) : Report := record [
  ("format", text t.format.name), ("blend", option BlendFunction.report t.blend),
  ("write_mask", nat t.writeMask)]

def PrimitiveSetup.report (p : PrimitiveSetup) : Report := record [
  ("topology", text p.topology.name),
  ("strip_index_format", option (fun f => text (IndexFormat.name f)) p.stripIndexFormat),
  ("front_face", text p.frontFace.name), ("cull_mode", reportCull p.cullMode),
  ("unclipped_depth", flag p.unclippedDepth), ("polygon_mode", text p.polygonMode.name),
  ("conservative", flag p.conservative)]

def Multisampling.report (m : Multisampling) : Report := record [
  ("count", word m.count), ("mask", nat m.mask),
  ("alpha_to_coverage_enabled", flag m.alphaToCoverage)]

def StencilFace.report (f : StencilFace) : Report := record [
  ("compare", text f.compare.name), ("fail_op", text f.failOp.name),
  ("depth_fail_op", text f.depthFailOp.name), ("pass_op", text f.passOp.name)]

def StencilTest.report (t : StencilTest) : Report := record [
  ("front", t.front.report), ("back", t.back.report), ("read_mask", word t.readMask),
  ("write_mask", word t.writeMask)]

def DepthBias.report (b : DepthBias) : Report := record [
  ("constant", number b.constant), ("slope_scale", text b.slopeScale.pointText),
  ("clamp", text b.clamp.pointText)]

def DepthStencilTest.report (t : DepthStencilTest) : Report := record [
  ("format", text t.format.name), ("depth_write_enabled", flag t.depthWriteEnabled),
  ("depth_compare", text t.depthCompare.name), ("stencil", t.stencil.report),
  ("bias", t.bias.report)]

def PipelineTemplate.report (t : PipelineTemplate) : Report := record [
  ("vertex_stride", nat t.vertexStride),
  ("attributes", list VertexAttribute.report t.attributes),
  ("color_target", t.target.report), ("primitive", t.primitive.report),
  ("multisample", t.multisample.report), ("has_vertex_input", flag t.hasVertexInput),
  ("key_hash", digest t.key.digest)]

/-- Vertices of a buffer; each is read once, whatever the instance. -/
def VertexBufferLayout.report (b : VertexBufferLayout) : Report :=
  row [nat b.stride, text "Vertex", list VertexAttribute.report b.attributes]

def PipelineDescription.report (d : PipelineDescription) : Report := record [
  ("vertex", text d.vertexEntry), ("buffers", list VertexBufferLayout.report d.buffers),
  ("fragment", text d.fragmentEntry), ("targets", row [d.target.report]),
  ("primitive", d.primitive.report), ("depth_stencil", d.depthStencil.report),
  ("multisample", d.multisample.report)]

/-! ### Calls -/

def TextureView.report : TextureView → Report
  | .texture n => text s!"texture {n}"
  | .frame n => text s!"surface {n}"

def LoadOp.report {α : Type} (write : α → Report) : LoadOp α → Report
  | .load => text "Load"
  | .clear value => record [("clear", write value)]

def ColorAttachment.report (c : ColorAttachment) : Report := record [
  ("view", c.view.report), ("resolve", option TextureView.report c.resolve),
  ("load", c.load.report Color.report), ("store", text "Store"), ("depth_slice", absent)]

def DepthAttachment.report (d : DepthAttachment) : Report := record [
  ("view", d.view.report), ("depth", row [d.depth.report single, text "Store"]),
  ("stencil", row [d.stencil.report nat, text "Store"])]

def SurfaceConfig.report (usage : UsageBits) (viewFormats : Nat) (c : SurfaceConfig) : Report :=
  record [
    ("usage", nat usage), ("format", text c.format.name), ("width", nat c.width),
    ("height", nat c.height), ("present_mode", text c.presentMode.name),
    ("alpha_mode", text c.alphaMode.name), ("view_formats", nat viewFormats),
    ("latency", nat c.latency)]

def GpuSurface.report (s : GpuSurface) : Report := record [
  ("format", text s.config.format.name), ("size", row [nat s.config.width, nat s.config.height])]

/-- A shader by its source; the built-in one by its name. -/
def reportShader (source : String) : Report :=
  text (if source = builtinShader then "builtin" else source)

/-- A preferred kind of adapter; absent where none is preferred. -/
def reportPower (power : PowerPreference) : Report :=
  if power = .none then absent else text power.name

/-- The name of a call with its arguments. -/
def GpuEvent.call : GpuEvent → String × List Report
  | createInstance flags backends => ("instance", [nat flags, flag backends])
  | createSurface => ("create_surface", [])
  | requestAdapter power surface fallback =>
      ("request_adapter", [reportPower power, flag surface, flag fallback])
  | requestDevice label features limits hints trace =>
      ("request_device",
        [option text label, flag features, flag limits, text hints, text trace])
  | configure usage config viewFormats => ("configure", [config.report usage viewFormats])
  | createShader label source => ("create_shader", [option text label, reportShader source])
  | createPipelineLayout label groups size =>
      ("create_pipeline_layout", [option text label, nat groups, nat size])
  | createBuffer n label size usage mapped =>
      ("create_buffer", [nat n, option text label, nat size, nat usage, flag mapped])
  | writeBuffer n offset bs => ("write_buffer", [nat n, nat offset, bytes bs])
  | createTexture n label width height layers samples format usage mips dimension =>
      ("create_texture", [nat n, option text label, row [nat width, nat height, nat layers],
        word samples, text format.name, nat usage, nat mips, text dimension])
  | createView view => ("create_view", [view.report])
  | pushErrorScope filter => ("push_error_scope", [text filter])
  | popErrorScope => ("pop_error_scope", [])
  | createPipeline n label description =>
      ("create_pipeline", [nat n, option text label, description.report])
  | acquire n => ("acquire", [TextureView.report (.frame n)])
  | acquireFailed status => ("acquire", [text status.name])
  | present n => ("present", [TextureView.report (.frame n)])
  | discard n => ("discard", [TextureView.report (.frame n)])
  | createEncoder n label => ("create_encoder", [nat n, option text label])
  | copy encoder source sourceOffset target targetOffset length =>
      ("copy", [encoder, source, sourceOffset, target, targetOffset, length].map nat)
  | finish n => ("finish", [nat n])
  | submit encoders => ("submit", [list nat encoders])
  | beginPass n label color depthStencil =>
      ("begin_pass", [nat n, option text label, row [color.report], depthStencil.report])
  | setPipeline n => ("set_pipeline", [nat n])
  | setScissor x y width height => ("set_scissor", [x, y, width, height].map nat)
  | setViewport v =>
      ("set_viewport", [v.x, v.y, v.width, v.height, v.minDepth, v.maxDepth].map single)
  | setStencilReference n => ("set_stencil_reference", [nat n])
  | setVertexBuffer slot buffer offset size =>
      ("set_vertex_buffer", [slot, buffer, offset, size].map nat)
  | setIndexBuffer buffer format offset size =>
      ("set_index_buffer", [nat buffer, text format.name, nat offset, nat size])
  | draw first stop firstInstance stopInstance =>
      ("draw", [first, stop, firstInstance, stopInstance].map nat)
  | drawIndexed first stop baseVertex firstInstance stopInstance =>
      ("draw_indexed",
        [nat first, nat stop, number baseVertex, nat firstInstance, nat stopInstance])

def GpuEvent.report (event : GpuEvent) : Report := row (text event.call.1 :: event.call.2)

end RenderBridge
