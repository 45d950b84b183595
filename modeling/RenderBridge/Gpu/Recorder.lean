import RenderBridge.Gpu.Event
/-!
A graphics machine that records every call and executes none. A script says what it has and how it
answers.

* `GpuScript`: the machine's adapter, limits and answers.
* `Recorder.log`: the calls so far.
* `Recorder.createBuffer`, `createTexture`, `createEncoder`, `createPipeline`, `acquire`: the calls
  that number something or answer.
-/

set_option autoImplicit false

namespace RenderBridge

/-- What the machine has, and its next answers. -/
structure GpuScript where
  window : WindowHandle := .available
  hasAdapter : Bool := true
  hasDevice : Bool := true
  adapterName : String := "recorder"
  formats : List TextureFormat := [.bgra8UnormSrgb]
  alphaModes : List AlphaMode := [.solid]
  /-- The sample counts supported beside one. -/
  samples : List Nat := [4]
  maxBufferSize : Nat := 0x10000000
  maxDimension : Nat := 8192
  /-- The answers to the next requests for a surface texture; good ones follow. -/
  acquire : List SurfaceStatus := []
  /-- What is wrong with the next pipelines, if anything; good ones follow. -/
  pipelineErrors : List (Option String) := []
deriving DecidableEq

/-- The machine: its script, how many objects of each kind it has made, and the calls so far. -/
structure Recorder where
  script : GpuScript := {}
  buffers : Nat := 0
  textures : Nat := 0
  /-- The textures acquired from surfaces. -/
  frames : Nat := 0
  encoders : Nat := 0
  pipelines : Nat := 0
  log : List GpuEvent := []

namespace Recorder

/-- Records calls. -/
def emit (r : Recorder) (events : List GpuEvent) : Recorder := { r with log := r.log ++ events }

/-- Replaces the script; numbers and calls go on. -/
def install (r : Recorder) (script : GpuScript) : Recorder := { r with script }

/-- Appends answers to those that wait. -/
def enqueue (r : Recorder) (acquire : List SurfaceStatus) (pipelineErrors : List (Option String)) :
    Recorder :=
  { r with
    script.acquire := r.script.acquire ++ acquire
    script.pipelineErrors := r.script.pipelineErrors ++ pipelineErrors }

/-- The uses of every buffer: copied from, copied to, indices, vertices. -/
def bufferUsage : UsageBits := 4 + 8 + 16 + 32

/-- The use of every texture and surface: drawn to. -/
def attachmentUsage : UsageBits := 16

def createBuffer (r : Recorder) (label : Option String) (size : Nat) : Nat × Recorder :=
  let number := r.buffers + 1
  (number, { r with buffers := number }.emit [.createBuffer number label size bufferUsage false])

def createTexture (r : Recorder) (label : Option String) (width height : Nat) (samples : UInt32)
    (format : TextureFormat) : Nat × Recorder :=
  let number := r.textures + 1
  (number, { r with textures := number }.emit
    [.createTexture number label width height 1 samples format attachmentUsage 1 "D2"])

def createEncoder (r : Recorder) (label : Option String) : Nat × Recorder :=
  let number := r.encoders + 1
  (number, { r with encoders := number }.emit [.createEncoder number label])

/-- Builds a pipeline inside an error scope. The answer is its number, or what is wrong with it. -/
def createPipeline (r : Recorder) (label : Option String) (description : PipelineDescription) :
    Except String Nat × Recorder :=
  let number := r.pipelines + 1
  let answer := r.script.pipelineErrors.headD none
  let r :=
    { r with
      pipelines := number
      script.pipelineErrors := r.script.pipelineErrors.tail }.emit
        [.pushErrorScope "Validation", .createPipeline number label description, .popErrorScope]
  match answer with
  | none => (.ok number, r)
  | some reason => (.error reason, r)

/-- Asks the surface for its next texture. The answer is its number, or the status where none
comes. -/
def acquire (r : Recorder) : Except SurfaceStatus Nat × Recorder :=
  let status := r.script.acquire.headD .good
  let r := { r with script.acquire := r.script.acquire.tail }
  if status.hasTexture then
    (.ok (r.frames + 1), { r with frames := r.frames + 1 }.emit [.acquire (r.frames + 1)])
  else (.error status, r.emit [.acquireFailed status])

/-- Whether targets with so many samples are supported. -/
def supportsSamples (r : Recorder) (samples : Nat) : Bool :=
  samples = 1 ||
    ([2, 4, 8, 16].contains samples && r.script.samples.contains samples)

end Recorder

end RenderBridge
