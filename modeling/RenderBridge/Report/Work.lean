import RenderBridge.Context.Basic
import RenderBridge.Device.Memory
import RenderBridge.Report.State
/-!
Reports of recorded work, surfaces, buffers and counts.
-/

set_option autoImplicit false

namespace RenderBridge

open Report

def Color.report (c : Color) : Report :=
  row [double c.red, double c.green, double c.blue, double c.alpha]

def reportCull (face : Option Face) : Report := option (fun f => text (Face.name f)) face

def CompiledPipeline.report (p : CompiledPipeline) : List Report := [nat p.id, digest p.key.digest]

def CompiledDepthStencil.report (d : CompiledDepthStencil) : List Report :=
  [nat d.id, digest d.key.digest]

def DrawCommand.report : DrawCommand CompiledPipeline CompiledDepthStencil → Report
  | .pipeline p => row (text "pipeline" :: p.report)
  | .depthStencil d => row (text "depth_stencil" :: d.report)
  | .cull face => row [text "cull", reportCull face]
  | .frontFace face => row [text "front_face", text face.name]
  | .scissor r => row [text "scissor", number r.x, number r.y, nat r.width, nat r.height]
  | .viewport v => row [text "viewport", single v.x, single v.y, single v.width, single v.height,
      single v.minDepth, single v.maxDepth]
  | .stencilReference n => row [text "stencil_ref", nat n]

def DrawKind.report : DrawKind → Report
  | .vertices first count => row [text "vertices", nat first, nat count]
  | .indexed count format => row [text "indexed", nat count, text format.name]

def RecordedWork.report : RecordedWork → Report
  | .clear color => record [("clear", color.report)]
  | .draw commands kind vertex index => record [
      ("commands", list DrawCommand.report commands), ("kind", kind.report),
      ("vertex", option pair vertex), ("index", option pair index)]

def SurfaceLog.report (l : SurfaceLog) : Report := record [
  ("geometry", list (fun (g : SurfaceGeometry × String) => row [nat g.1.width, nat g.1.height,
    single g.1.scale, flag g.1.fullscreen, text g.2]) l.geometry),
  ("detached_on", option text l.detachedOn)]

def ContextStats.report (s : ContextStats) : Report :=
  row [nat s.revision, nat s.frameSerial.toNat, nat s.cache.pipelines, nat s.cache.depthStencils,
    nat s.cache.hits, nat s.cache.misses, nat s.cache.failures, nat s.liveBuffers, nat s.layouts,
    nat s.stagingCapacity]

/-- A buffer as it stands for the frame of a serial. -/
def BufferRecord.report (serial : FrameSerial) (r : BufferRecord) : Report := record [
  ("usage", text r.usage.name), ("size", nat r.size), ("slot_size", nat r.slotSize),
  ("slot_count", nat r.slotCount), ("id", nat r.buffer), ("active", nat (r.activeSlot serial)),
  ("active_offset", nat (r.activeOffset serial))]

/-- The counts of a device in host memory. -/
def MemoryDevice.report (d : MemoryDevice) : Report := Report.record [
  ("pipelines", nat d.pipelineCount.toNat), ("depth_stencils", nat d.depthStencilCount.toNat),
  ("buffers", nat d.bufferCount), ("copies", nat d.copies), ("submissions", nat d.submissions),
  ("presents", nat d.presents), ("target", row [nat d.targetWidth, nat d.targetHeight])]

end RenderBridge
