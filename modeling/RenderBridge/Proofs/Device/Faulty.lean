import RenderBridge.Device.Faulty
import RenderBridge.Proofs.Device.Memory
/-!
A call to a device with armed failures is a call to the device in host memory inside it, unless a
failure is armed for it.

* `FaultyDevice.Armed`: a failure is armed for a call.
* `FaultyDevice.perform_cases`: **what a call does**.
* `FaultyDevice.keeps_memory`: what the calls of the inner device keep.
-/

set_option autoImplicit false

namespace RenderBridge

namespace FaultyDevice

/-- A device on which nothing was done yet. Failures may be armed. -/
structure Fresh (d : FaultyDevice) : Prop where
  created : d.memory.created = 0
  buffers : d.memory.buffers = {}
  pipelines : d.memory.pipelineCompilations = 0
  depthStencils : d.memory.depthStencilCompilations = 0
  pending : d.memory.pending = []
  submitted : d.memory.submitted = []

/-- A new device that copies in granules. -/
def ofAlignment (alignment : ℕ) : FaultyDevice := { memory := { alignment } }

lemma fresh_ofAlignment (alignment : ℕ) : (ofAlignment alignment).Fresh :=
  ⟨rfl, rfl, rfl, rfl, rfl, rfl⟩

/-- The alignment asked for is a 64-bit power of two, or none is asked for. -/
def PowerAligned (d : FaultyDevice) : Prop :=
  d.memory.alignment = 0 ∨ ∃ k < 64, d.memory.alignment = 2 ^ k

lemma powerAligned_ofAlignment {k : ℕ} (hk : k < 64) : (ofAlignment (2 ^ k)).PowerAligned :=
  .inr ⟨k, hk, rfl⟩

/-- The point at which a call can be made to fail. Compiling and encoding are none: there the inner
device fails by itself. -/
def pointOf : HostRequest → Option FaultPoint
  | .createLayout _ => some .createLayout
  | .createBuffer .. => some .createBuffer
  | .writeBuffer .. => some .writeBuffer
  | .copyBuffer .. => some .copyBuffer
  | .resizeTargets .. => some .resizeTargets
  | .clear _ => some .clear
  | .submit => some .submit
  | .present => some .present
  | _ => none

/-- A failure is armed for a call. -/
def Armed (d : FaultyDevice) (request : HostRequest) : Prop :=
  ∃ point, pointOf request = some point ∧ (d.trip point).1.isSome

lemma trip_cases (point : FaultPoint) (d : FaultyDevice) :
    (∃ fault d', d.trip point = (some fault, d') ∧ d'.memory = d.memory) ∨
      d.trip point = (none, d) := by
  rw [trip]
  split
  · exact .inl ⟨_, _, rfl, rfl⟩
  · exact .inr rfl

variable {α : Type}

/-- The answer of a call and what it does to the inner device: an armed failure and nothing, or
what the inner device does. -/
def Passes (request : HostRequest) (d : FaultyDevice) (out : Except DeviceFault α × FaultyDevice)
    (inner : Except DeviceFault α × MemoryDevice) : Prop :=
  (d.Armed request ∧ (∃ fault, out.1 = .error fault) ∧ out.2.memory = d.memory) ∨
    (out.1 = inner.1 ∧ out.2.memory = inner.2)

lemma through_passes (request : HostRequest) {point : FaultPoint}
    (hpoint : pointOf request = some point) (d : FaultyDevice) :
    Passes request d (through point request.perform d) (request.perform d.memory) := by
  rw [through]
  rcases d.trip_cases point with ⟨fault, d', htrip, hmemory⟩ | htrip
  · rw [htrip]
    exact .inl ⟨⟨point, hpoint, by rw [htrip]; rfl⟩, ⟨fault, rfl⟩, hmemory⟩
  · rw [htrip]
    exact .inr ⟨rfl, rfl⟩

/-- What a call does. -/
theorem perform_cases (request : HostRequest) (d : FaultyDevice) :
    Passes request d (request.perform d) (request.perform d.memory) := by
  cases request with
  | createBuffer size label =>
    change Passes _ d (createBuffer size label d) _
    rw [createBuffer]
    rcases d.trip_cases .createBuffer with ⟨fault, d', htrip, hmemory⟩ | htrip
    · rw [htrip]
      exact .inl ⟨⟨.createBuffer, rfl, by rw [htrip]; rfl⟩, ⟨fault, rfl⟩, hmemory⟩
    · rw [htrip]
      exact .inr ⟨rfl, rfl⟩
  | createLayout layout => exact through_passes (.createLayout layout) rfl d
  | writeBuffer id offset bytes => exact through_passes (.writeBuffer id offset bytes) rfl d
  | copyBuffer source sourceOffset target targetOffset length =>
    exact through_passes (.copyBuffer source sourceOffset target targetOffset length) rfl d
  | resizeTargets width height => exact through_passes (.resizeTargets width height) rfl d
  | clear color => exact through_passes (.clear color) rfl d
  | submit => exact through_passes .submit rfl d
  | present => exact through_passes .present rfl d
  | _ => exact .inr ⟨rfl, rfl⟩

/-- What the calls of the inner device keep of it, the calls of the device keep. -/
theorem keeps_memory {I : MemoryDevice → Prop} {kinds : List CallKind} (h : Keeps I kinds) :
    Keeps (fun d : FaultyDevice => I d.memory) kinds := by
  intro request hkind d hd
  rcases perform_cases request d with ⟨-, -, hmemory⟩ | ⟨-, hmemory⟩
  · rw [hmemory]
    exact hd
  · rw [hmemory]
    exact h request hkind d.memory hd

/-- Arming failures changes nothing but what will fail. -/
lemma arm_memory (point : FaultPoint) (n : ℕ) (fault : DeviceFault) (d : FaultyDevice) :
    ∃ failPipelines failDepthStencils failEncodes, (d.arm point n fault).memory =
      { d.memory with failPipelines, failDepthStencils, failEncodes } := by
  cases point with
  | pipeline => exact ⟨n, d.memory.failDepthStencils, d.memory.failEncodes, rfl⟩
  | depthStencil => exact ⟨d.memory.failPipelines, n, d.memory.failEncodes, rfl⟩
  | encode => exact ⟨d.memory.failPipelines, d.memory.failDepthStencils, n, rfl⟩
  | _ => exact ⟨_, _, _, rfl⟩

end FaultyDevice

end RenderBridge
