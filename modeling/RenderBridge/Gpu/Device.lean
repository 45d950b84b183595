import RenderBridge.Gpu.Recorder
import RenderBridge.Gpu.Rect
import RenderBridge.Table
/-!
A device on a graphics machine, with its presentation surface.

Every clear and draw records one render pass into the frame's encoder; a submission hands the
encoder over, and presenting gives the acquired texture back. Staging copies are submitted at once,
which keeps them in order with the writes that fill the staging ring.

* `GpuDevice.realize`: the pipeline for a template and a depth-stencil object, built once; what the
  machine rejects is not remembered.
* `GpuDevice.ensureFrame`, `beginPass`: the acquired texture and the encoder of a frame, and a pass.
* `GpuDevice.encodeDraw`: the pass of a draw.
-/

set_option autoImplicit false

namespace RenderBridge

/-- A compiled pipeline: a number of its own and its template. -/
structure GpuPipeline where
  id : Nat
  template : PipelineTemplate
deriving DecidableEq

/-- A compiled depth-stencil object: its key and the state that goes into pipelines. -/
structure GpuDepthStencil where
  key : DepthStencilKey
  state : DepthStencilTest
deriving DecidableEq

def GpuDepthStencil.of (key : DepthStencilKey) : GpuDepthStencil := ⟨key, DepthStencilTest.of key⟩

/-- A configured surface. Once detached it is left alone. -/
structure GpuSurface where
  config : SurfaceConfig
  detached : Bool := false
deriving DecidableEq

/-- The targets that follow the drawable's size. The second view is there with several samples. -/
structure FrameTargets where
  width : Nat
  height : Nat
  depthView : TextureView
  sampledView : Option TextureView
deriving DecidableEq

/-- The state of a device on a graphics machine. -/
structure GpuDevice where
  recorder : Recorder
  surface : GpuSurface
  colorFormat : TextureFormat
  sampleCount : UInt32
  labels : Bool
  targets : Option FrameTargets := none
  /-- The texture acquired from the surface that is held. -/
  frame : Option Nat := none
  /-- The encoder with work that is not submitted yet. -/
  encoder : Option Nat := none
  /-- The number of templates made so far. -/
  templates : Nat := 0
  /-- The pipelines built for templates and depth-stencil objects. -/
  variants : Table (Nat × DepthStencilKey) Nat := {}

namespace GpuDevice

/-- A label, where labels are wanted. -/
def label (d : GpuDevice) (text : String) : Option String := if d.labels then some text else none

/-- Records calls. -/
def emit (d : GpuDevice) (events : List GpuEvent) : GpuDevice :=
  { d with recorder := d.recorder.emit events }

/-! ### Pipelines -/

/-- The pipeline for a template and a depth-stencil object. -/
def realize (pipeline : GpuPipeline) (depthStencil : GpuDepthStencil) (d : GpuDevice) :
    Except DeviceFault Nat × GpuDevice :=
  match d.variants.get? (pipeline.id, depthStencil.key) with
  | some number => (.ok number, d)
  | none =>
    match d.recorder.createPipeline (d.label "kiln pipeline")
        (pipeline.template.describe depthStencil.state) with
    | (.ok number, recorder) =>
      (.ok number,
        { d with
          recorder, variants := d.variants.insert (pipeline.id, depthStencil.key) number })
    | (.error reason, recorder) =>
      (.error (.compilation (.pipelineRejected pipeline.template.key.digest
        depthStencil.key.digest reason)), { d with recorder })

/-- The depth-stencil object with which a new template is tried. -/
def defaultDepthStencil : GpuDepthStencil := .of (DepthStencilKey.of {})

/-- Compiles a pipeline key. The pipeline for the default depth-stencil object is built at once, so
that the machine sees the state of the key. -/
def compilePipeline (key : PipelineKey) (layout : Option VertexLayout) (d : GpuDevice) :
    Except DeviceFault GpuPipeline × GpuDevice :=
  if key.colorFormat ≠ d.colorFormat ∨ key.sampleCount ≠ d.sampleCount then
    (.error (.compilation
      (.targetMismatch key.colorFormat key.sampleCount d.colorFormat d.sampleCount)), d)
  else
    match PipelineTemplate.of key layout with
    | .error fault => (.error fault, d)
    | .ok template =>
      let pipeline : GpuPipeline := ⟨d.templates + 1, template⟩
      match realize pipeline defaultDepthStencil { d with templates := d.templates + 1 } with
      | (.ok _, d) => (.ok pipeline, d)
      | (.error fault, d) => (.error fault, d)

/-- The alignment of vertex strides. -/
def strideAlignment : Nat := 4

def createLayout (layout : VertexLayout) (d : GpuDevice) :
    Except DeviceFault VertexLayout × GpuDevice :=
  if layout.stride % strideAlignment ≠ 0 then
    (.error (.invalidArgument (.strideMisaligned layout.stride strideAlignment)), d)
  else (.ok layout, d)

/-! ### Buffers -/

/-- Offsets and lengths of writes and copies are multiples of this. -/
def copyAlignment : Nat := 4

/-- Refuses an offset or a length that is no multiple of the granule. -/
def checkAligned (offset length : Nat) : Except DeviceFault Unit :=
  if offset % copyAlignment ≠ 0 ∨ length % copyAlignment ≠ 0 then
    .error (.invalidArgument (.misaligned offset length copyAlignment))
  else .ok ()

def createBuffer (size : Nat) (label : Option String) (d : GpuDevice) :
    Except DeviceFault BufferId × GpuDevice :=
  let limit := d.recorder.script.maxBufferSize
  if limit < size then (.error (.resource (.exceedsDeviceLimit size limit)), d)
  else
    let (number, recorder) := d.recorder.createBuffer label size
    (.ok number, { d with recorder })

def writeBuffer (buffer : BufferId) (offset : Nat) (bytes : Bytes) (d : GpuDevice) :
    Except DeviceFault Unit × GpuDevice :=
  match checkAligned offset bytes.size with
  | .error fault => (.error fault, d)
  | .ok () => (.ok (), d.emit [.writeBuffer buffer offset bytes])

def copyBuffer (source : BufferId) (sourceOffset : Nat) (target : BufferId) (targetOffset : Nat)
    (length : Nat) (d : GpuDevice) : Except DeviceFault Unit × GpuDevice :=
  match checkAligned sourceOffset length with
  | .error fault => (.error fault, d)
  | .ok () =>
    match checkAligned targetOffset length with
    | .error fault => (.error fault, d)
    | .ok () =>
      let (encoder, recorder) := d.recorder.createEncoder (d.label "kiln upload encoder")
      (.ok (), { d with recorder }.emit
        [.copy encoder source sourceOffset target targetOffset length, .finish encoder,
          .submit [encoder]])

/-! ### Surface -/

/-- Tells the machine the surface's configuration. -/
def configureSurface (d : GpuDevice) : GpuDevice :=
  d.emit [.configure Recorder.attachmentUsage d.surface.config 0]

/-- Gives the surface a new size. An empty one is not taken, and a detached surface is left
alone. -/
def applyGeometry (geometry : SurfaceGeometry) (d : GpuDevice) : GpuDevice :=
  if d.surface.detached ∨ geometry.width = 0 ∨ geometry.height = 0 then d
  else
    { d with
      surface.config.width := geometry.width
      surface.config.height := geometry.height }.configureSurface

def detachSurface (d : GpuDevice) : GpuDevice := { d with surface.detached := true }

/-- Gives the held texture up without showing it. -/
def dropFrame (d : GpuDevice) : GpuDevice :=
  match d.frame with
  | some frame => { d with frame := none }.emit [.discard frame]
  | none => d

/-- Asks the surface for its next texture. A surface that is lost or outdated is configured again
and the frame is skipped. -/
def acquire (d : GpuDevice) : Except DeviceFault Nat × GpuDevice :=
  if d.surface.detached then (.error (.resource .surfaceDetached), d)
  else
    match d.recorder.acquire with
    | (.ok frame, recorder) =>
      (.ok frame, { d with recorder, frame := some frame }.emit [.createView (.frame frame)])
    | (.error .lost, recorder) | (.error .outdated, recorder) =>
      (.error (.resource .surfaceReconfigured), { d with recorder }.configureSurface)
    | (.error status, recorder) =>
      (.error (.resource (.surfaceUnavailable status)), { d with recorder })

/-! ### Targets -/

/-- The color texture that is resolved into the surface's, for several samples. -/
def createSampledView (width height : Nat) (d : GpuDevice) : Option TextureView × GpuDevice :=
  if 1 < d.sampleCount then
    let (texture, recorder) :=
      d.recorder.createTexture (d.label "kiln msaa color") width height d.sampleCount d.colorFormat
    (some (.texture texture), { d with recorder }.emit [.createView (.texture texture)])
  else (none, d)

/-- Makes the targets anew. A texture acquired at the old size is stale and is given up. -/
def resizeTargets (width height : Nat) (d : GpuDevice) : Except DeviceFault Unit × GpuDevice :=
  if width = 0 ∨ height = 0 then (.error (.invalidArgument (.emptyTargets width height)), d)
  else
    let d := d.dropFrame
    let (depth, recorder) :=
      d.recorder.createTexture (d.label "kiln depth-stencil") width height d.sampleCount
        depthStencilFormat
    let (sampledView, d) := createSampledView width height { d with recorder }
    (.ok (), { d with targets := some ⟨width, height, .texture depth, sampledView⟩ }.emit
      [.createView (.texture depth)])

/-! ### Passes -/

/-- The encoder of the frame, made where there is none. -/
def ensureEncoder (d : GpuDevice) : Nat × GpuDevice :=
  match d.encoder with
  | some encoder => (encoder, d)
  | none =>
    let (encoder, recorder) := d.recorder.createEncoder (d.label "kiln frame encoder")
    (encoder, { d with recorder, encoder := some encoder })

/-- The acquired texture and the encoder of the frame. -/
def ensureFrame (d : GpuDevice) : Except DeviceFault (Nat × Nat) × GpuDevice :=
  match d.frame with
  | some frame => let (encoder, d) := d.ensureEncoder; (.ok (frame, encoder), d)
  | none =>
    match d.acquire with
    | (.error fault, d) => (.error fault, d)
    | (.ok frame, d) => let (encoder, d) := d.ensureEncoder; (.ok (frame, encoder), d)

/-- Begins a pass. With a color all attachments are cleared, without one they are loaded. -/
def beginPass (color : Option Color) (d : GpuDevice) : Except DeviceFault Unit × GpuDevice :=
  match d.ensureFrame with
  | (.error fault, d) => (.error fault, d)
  | (.ok (frame, encoder), d) =>
    match d.targets with
    | none => (.error (.resource .targetsNotReady), d)
    | some targets =>
      let view : TextureView := .frame frame
      let attachment : ColorAttachment :=
        { view := targets.sampledView.getD view
          resolve := targets.sampledView.map fun _ => view
          load := (color.map .clear).getD .load }
      let depthStencil : DepthAttachment :=
        { view := targets.depthView
          depth := (color.map fun _ => .clear .one).getD .load
          stencil := (color.map fun _ => .clear 0).getD .load }
      (.ok (), d.emit [.beginPass encoder (d.label "kiln pass") attachment depthStencil])

/-- The scissor rectangle on the target, if there is one to set: `none` where nothing is left. -/
def scissorEvents (scissor : Option ScissorRect) (targets : FrameTargets) :
    Option (List GpuEvent) :=
  match scissor with
  | none => some []
  | some r =>
    (Rect.flipAndClip ⟨.ofInt r.x, .ofInt r.y, .ofInt r.width, .ofInt r.height⟩ targets.width
      targets.height).map fun clipped =>
        [.setScissor clipped.x.toWord clipped.y.toWord clipped.width.toWord clipped.height.toWord]

/-- The calls that read the bound ranges and draw. -/
def callEvents (call : DrawCall) : Except DeviceFault (List GpuEvent) :=
  match call.kind, call.index with
  | .vertices first count, _ => .ok [.draw first (first + count) 0 1]
  | .indexed count format, some index =>
    .ok [.setIndexBuffer index.buffer format index.offset index.size, .drawIndexed 0 count 0 0 1]
  | .indexed .., none => .error (.invalidArgument .indexBufferMissing)

/-- The calls of a pass after the scissor is set: viewport, stencil reference, buffers, draw. What
was called before a failure stays called. -/
def drawEvents {P D : Type} (config : DrawConfig P D) (call : DrawCall) (targets : FrameTargets)
    (maxDimension : Nat) : Except DeviceFault Unit × List GpuEvent :=
  let v := config.viewport
  let rect := Rect.flip ⟨v.x, v.y, v.width, v.height⟩ targets.height
  if !rect.inBounds maxDimension then
    (.error (.invalidArgument (.viewportOutsideRange rect.x rect.y rect.width rect.height)), [])
  else
    let state : List GpuEvent :=
      .setViewport ⟨rect.x, rect.y, rect.width, rect.height, v.minDepth, v.maxDepth⟩ ::
        (config.stencilReference.map .setStencilReference).toList ++
        (call.vertex.map fun b => GpuEvent.setVertexBuffer 0 b.buffer b.offset b.size).toList
    match callEvents call with
    | .ok events => (.ok (), state ++ events)
    | .error fault => (.error fault, state)

/-- Records the pass of a draw. Where the scissor leaves nothing the pass draws nothing. -/
def encodePass {P D : Type} (config : DrawConfig P D) (call : DrawCall) (pipeline : Nat)
    (targets : FrameTargets) (d : GpuDevice) : Except DeviceFault Unit × GpuDevice :=
  match d.beginPass none with
  | (.error fault, d) => (.error fault, d)
  | (.ok (), d) =>
    let d := d.emit [.setPipeline pipeline]
    match scissorEvents config.scissor targets with
    | none => (.ok (), d)
    | some scissor =>
      let (result, events) := drawEvents config call targets d.recorder.script.maxDimension
      (result, d.emit (scissor ++ events))

/-- Records a draw: what it needs is checked, its pipeline realized, and its pass recorded. -/
def encodeDraw (config : DrawConfig GpuPipeline GpuDepthStencil) (call : DrawCall)
    (d : GpuDevice) : Except DeviceFault Unit × GpuDevice :=
  if config.pipeline.template.hasVertexInput && call.vertex.isNone then
    (.error (.invalidArgument .vertexBufferMissing), d)
  else
    match d.targets with
    | none => (.error (.resource .targetsNotReady), d)
    | some targets =>
      match realize config.pipeline config.depthStencil d with
      | (.error fault, d) => (.error fault, d)
      | (.ok pipeline, d) => encodePass config call pipeline targets d

/-! ### Frames -/

/-- Hands the frame's encoder over. Without one the submission is empty. -/
def submit (d : GpuDevice) : GpuDevice :=
  match d.encoder with
  | some encoder => { d with encoder := none }.emit [.finish encoder, .submit [encoder]]
  | none => d.emit [.submit []]

/-- Shows the held texture, if there is one. -/
def present (d : GpuDevice) : GpuDevice :=
  match d.frame with
  | some frame => { d with frame := none }.emit [.present frame]
  | none => d

/-- What is left of the machine when the device ends. -/
def retire (d : GpuDevice) : Recorder := d.dropFrame.recorder

instance : Device GpuDevice GpuPipeline GpuDepthStencil where
  compilePipeline := compilePipeline
  compileDepthStencil key d := (.ok (.of key), d)
  createLayout := createLayout
  createBuffer := createBuffer
  releaseBuffer _ d := d
  copyAlignment _ := copyAlignment
  writeBuffer := writeBuffer
  copyBuffer := copyBuffer
  applyGeometry geometry _ := applyGeometry geometry
  detachSurface _ := detachSurface
  resizeTargets := resizeTargets
  clear color := beginPass (some color)
  encodeDraw := encodeDraw
  submit d := (.ok (), d.submit)
  present d := (.ok (), d.present)

end GpuDevice

end RenderBridge
