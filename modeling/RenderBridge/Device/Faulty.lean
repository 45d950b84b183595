import RenderBridge.Device.Memory
/-!
A device in host memory whose calls can be made to fail. A call that fails at its point never
reaches the memory device, except for compiling and encoding, where that device fails by itself.

* `FaultyDevice.arm`: makes the next calls at a point fail.
* `FaultyDevice.trip`: whether a call fails, and what is left armed.
-/

set_option autoImplicit false

namespace RenderBridge

/-- Where calls can be made to fail. -/
inductive FaultPoint
  | pipeline
  | depthStencil
  | encode
  | clear
  | submit
  | present
  | resizeTargets
  | createBuffer
  | writeBuffer
  | copyBuffer
  | createLayout
deriving DecidableEq

/-- A failure waiting for the next calls at its point. -/
structure ArmedFault where
  remaining : Nat
  fault : DeviceFault
deriving DecidableEq

/-- A memory device with armed failures. It also keeps the labels of buffers asked for. -/
structure FaultyDevice where
  memory : MemoryDevice := {}
  armed : Table FaultPoint ArmedFault := {}
  labels : List (Option String) := []

namespace FaultyDevice

/-- Makes the next `n` calls at a point fail, in place of what was armed there. -/
def arm (point : FaultPoint) (n : Nat) (fault : DeviceFault) (d : FaultyDevice) : FaultyDevice :=
  match point with
  | .pipeline => { d with memory.failPipelines := n }
  | .depthStencil => { d with memory.failDepthStencils := n }
  | .encode => { d with memory.failEncodes := n }
  | point => { d with armed := d.armed.insert point ⟨n, fault⟩ }

/-- The failure of a call at a point, if one is armed. -/
def trip (point : FaultPoint) (d : FaultyDevice) : Option DeviceFault × FaultyDevice :=
  match d.armed.get? point with
  | some ⟨n + 1, fault⟩ => (some fault, { d with armed := d.armed.insert point ⟨n, fault⟩ })
  | _ => (none, d)

/-- Calls the memory device unless a failure is armed at the point. -/
def through {α : Type} (point : FaultPoint)
    (call : MemoryDevice → Except DeviceFault α × MemoryDevice) (d : FaultyDevice) :
    Except DeviceFault α × FaultyDevice :=
  match d.trip point with
  | (some fault, d) => (.error fault, d)
  | (none, d) =>
    let (result, memory) := call d.memory
    (result, { d with memory })

/-- Calls the memory device where it fails by itself. -/
def direct {α : Type} (call : MemoryDevice → Except DeviceFault α × MemoryDevice)
    (d : FaultyDevice) : Except DeviceFault α × FaultyDevice :=
  let (result, memory) := call d.memory
  (result, { d with memory })

/-- Makes a buffer. The label is kept where no failure is armed, also where memory runs out. -/
def createBuffer (size : Nat) (label : Option String) (d : FaultyDevice) :
    Except DeviceFault BufferId × FaultyDevice :=
  match d.trip .createBuffer with
  | (some fault, d) => (.error fault, d)
  | (none, d) =>
    let (result, memory) := Device.createBuffer size label d.memory
    (result, { d with memory, labels := d.labels ++ [label] })

instance : Device FaultyDevice CompiledPipeline CompiledDepthStencil where
  compilePipeline key layout := direct (Device.compilePipeline key layout)
  compileDepthStencil key := direct (Device.compileDepthStencil key)
  createLayout layout := through .createLayout (Device.createLayout layout)
  createBuffer := createBuffer
  releaseBuffer id d := { d with memory := Device.releaseBuffer id d.memory }
  copyAlignment d := Device.copyAlignment d.memory
  writeBuffer id offset bytes := through .writeBuffer (Device.writeBuffer id offset bytes)
  copyBuffer source sourceOffset target targetOffset length :=
    through .copyBuffer (Device.copyBuffer source sourceOffset target targetOffset length)
  applyGeometry geometry thread d :=
    { d with memory := Device.applyGeometry geometry thread d.memory }
  detachSurface thread d := { d with memory := Device.detachSurface thread d.memory }
  resizeTargets width height := through .resizeTargets (Device.resizeTargets width height)
  clear color := through .clear (Device.clear color)
  encodeDraw config call := direct (Device.encodeDraw config call)
  submit := through .submit Device.submit
  present := through .present Device.present

instance : ReadableDevice FaultyDevice where
  readBuffer id offset length d := ReadableDevice.readBuffer id offset length d.memory

end FaultyDevice

end RenderBridge
