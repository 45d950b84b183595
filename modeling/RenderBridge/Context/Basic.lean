import RenderBridge.Buffer.Allocator
import RenderBridge.Config
import RenderBridge.Draw.Resolve
import RenderBridge.Frame.Submit
import RenderBridge.State.Tracker
import RenderBridge.Ui.Thread
import RenderBridge.Vertex.Registry
/-!
The rendering context: all mutable rendering state, and the operations of a host on it. An operation
takes the context and gives its answer with the context after it.

* `Context.openWith`, `close`: the life of a context.
* `set`, `resize`, `clear`, `present`, `createBuffer`, `updateBuffer`, `destroyBuffer`,
  `registerLayout`, `bindVertex`, `bindIndex`: the operations, apart from draws.
* `Context.submitUnit`: a unit of work is submitted also where encoding it fails part of the way.
* `Context.stats`, `readSlot`: what can be observed.
-/

set_option autoImplicit false

namespace RenderBridge

/-- The buffers that draws read. -/
structure DrawBindings where
  vertex : Option (BufferHandle × LayoutHandle) := none
  index : Option BufferHandle := none
deriving DecidableEq

/-- The bindings without those that name a buffer. -/
def DrawBindings.without (b : DrawBindings) (buffer : BufferHandle) : DrawBindings where
  vertex := b.vertex.filter fun bound => bound.1 ≠ buffer
  index := b.index.filter fun bound => bound ≠ buffer

/-- A rendering context on a device. -/
structure Context (δ P D : Type) where
  config : Config
  ui : UiThread
  /-- What host memory answers to requests of the context itself. -/
  host : HostMemory := .ample
  tracker : Tracker := {}
  cache : Cache P D := {}
  buffers : BufferAllocator
  layouts : LayoutRegistry := {}
  serial : FrameSerial := {}
  bindings : DrawBindings := {}
  device : δ

/-- How devices come into being from what is left of earlier ones, and what is left of them. -/
structure DeviceFactory (ω δ : Type) where
  build : Config → ω → Except (DeviceFault × ω) δ
  retire : δ → ω

/-- The counts that a context shows. -/
structure ContextStats where
  revision : Nat
  frameSerial : UInt64
  cache : CacheStats
  liveBuffers : Nat
  layouts : Nat
  stagingCapacity : Nat
deriving DecidableEq

namespace Context

variable {δ P D : Type}

/-- A context in its first state on a device. -/
def ofDevice (config : Config) (ui : UiThread) (device : δ) : Context δ P D where
  config := config
  ui := ui
  buffers := .ofConfig config.stagingCapacity config.debugFlags.labels
  device := device

def stats (c : Context δ P D) : ContextStats where
  revision := c.tracker.revision
  frameSerial := c.serial.count
  cache := c.cache.stats
  liveBuffers := c.buffers.liveBuffers
  layouts := c.layouts.size
  stagingCapacity := c.buffers.ring.capacity

/-! ### Render state -/

def set (c : Context δ P D) (setting : Setting) : Except Fault Bool × Context δ P D :=
  let (result, tracker) := c.tracker.apply setting
  (result, { c with tracker })

variable [Device δ P D]

/-! ### Life -/

/-- Opens a context. The size is checked first; the device is built on the UI thread and given its
first targets. What is left of earlier devices comes back where this fails. -/
def openWith {ω : Type} (config : Config) (ui : UiThread) (factory : DeviceFactory ω δ)
    (world : ω) : Except (Fault × ω) (Context δ P D) :=
  if config.width ≤ 0 ∨ config.height ≤ 0 then
    .error (.invalidArgument (.drawableEmpty config.width config.height), world)
  else
    match ui.run fun _ => factory.build config world with
    | .error fault => .error (fault, world)
    | .ok (.error (fault, world)) => .error (.openingFailed (.device fault.cause), world)
    | .ok (.ok device) =>
      match Device.resizeTargets config.width.toNat config.height.toNat device with
      | (.ok (), device) => .ok (ofDevice config ui device)
      | (.error fault, device) =>
        .error (.openingFailed (.device fault.cause), factory.retire device)

/-- The device of a context that ends. The surface is parted from on the UI thread, where that can
be done. -/
def close (c : Context δ P D) : δ :=
  match c.ui.run fun thread => Device.detachSurface thread c.device with
  | .ok device => device
  | .error _ => c.device

/-! ### Surface -/

/-- A scale that is not positive counts as one. -/
def effectiveScale (scale : Single) : Single := if Single.lt .zero scale then scale else .one

/-- Gives the drawable a new size: the surface learns of it first, then the targets are made anew,
and then the configuration takes it. -/
def resize (c : Context δ P D) (width height : Int) (scale : Single) (fullscreen : Bool) :
    Except Fault Unit × Context δ P D :=
  if width ≤ 0 ∨ height ≤ 0 then (.error (.invalidArgument (.resizeEmpty width height)), c)
  else
    let geometry : SurfaceGeometry :=
      ⟨width.toNat, height.toNat, effectiveScale scale, fullscreen⟩
    match c.ui.run fun thread => Device.applyGeometry geometry thread c.device with
    | .error fault => (.error fault, c)
    | .ok device =>
      match Device.resizeTargets width.toNat height.toNat device with
      | (.error fault, device) => (.error (.ofDevice fault), { c with device })
      | (.ok (), device) =>
        (.ok (), { c with device, config := { c.config with width, height } })

/-- A component of a clear color brought into `[0, 1]`; what is no number counts as zero. -/
def clampComponent (x : Single) : Single := if x.isNaN then .zero else x.clamp .zero .one

/-- Submits the unit whose encoding gave `encoded`. A failed encoding is the answer even where the
submission succeeds. -/
def submitUnit (c : Context δ P D) (encoded : Except DeviceFault Unit) :
    Except Fault Unit × Context δ P D :=
  let (submitted, serial, device) := c.serial.submit c.device
  let c := { c with serial, device }
  match encoded, submitted with
  | .error fault, _ => (.error (.ofDevice fault), c)
  | .ok (), .error fault => (.error fault, c)
  | .ok (), .ok _ => (.ok (), c)

/-- Clears the color target and submits. -/
def clear (c : Context δ P D) (color : Color) : Except Fault Unit × Context δ P D :=
  let clamped : Color := ⟨clampComponent color.red, clampComponent color.green,
    clampComponent color.blue, clampComponent color.alpha⟩
  let (encoded, device) := Device.clear clamped c.device
  { c with device }.submitUnit encoded

def present (c : Context δ P D) : Except Fault Unit × Context δ P D :=
  match Device.present c.device with
  | (.ok (), device) => (.ok (), { c with device })
  | (.error fault, device) => (.error (.ofDevice fault), { c with device })

/-! ### Buffers and layouts -/

def createBuffer (c : Context δ P D) (usage : Int) (size : Int) (data : Option Bytes) :
    Except Fault BufferHandle × Context δ P D :=
  match BufferUsage.ofToken usage with
  | .error fault => (.error fault, c)
  | .ok usage =>
    let (result, buffers, device) := c.buffers.create usage size data c.device c.host
    (result, { c with buffers, device })

def updateBuffer (c : Context δ P D) (buffer : BufferHandle) (offset : Int) (data : Option Bytes)
    (length : Int) : Except Fault Unit × Context δ P D :=
  let (result, buffers, device) := c.buffers.update buffer offset data length c.serial c.device
  (result, { c with buffers, device })

/-- Ends a buffer and every binding of it. -/
def destroyBuffer (c : Context δ P D) (buffer : BufferHandle) :
    Except Fault Unit × Context δ P D :=
  match c.buffers.destroy buffer c.device with
  | (.error fault, buffers, device) => (.error fault, { c with buffers, device })
  | (.ok (), buffers, device) =>
    (.ok (), { c with buffers, device, bindings := c.bindings.without buffer })

def registerLayout (c : Context δ P D) (stride count : Int) (packed : Bytes) :
    Except Fault LayoutHandle × Context δ P D :=
  let (result, layouts, device) := c.layouts.register stride count packed c.device
  (result, { c with layouts, device })

/-- Binds a live buffer with a registered layout for the vertices of later draws. -/
def bindVertex (c : Context δ P D) (buffer : BufferHandle) (layout : LayoutHandle) :
    Except Fault Unit × Context δ P D :=
  match c.buffers.find buffer with
  | .error fault => (.error fault, c)
  | .ok _ =>
    match c.layouts.find layout with
    | .error fault => (.error fault, c)
    | .ok _ => (.ok (), { c with bindings.vertex := some (buffer, layout) })

/-- Binds a live buffer for the indices of later draws. -/
def bindIndex (c : Context δ P D) (buffer : BufferHandle) : Except Fault Unit × Context δ P D :=
  match c.buffers.find buffer with
  | .error fault => (.error fault, c)
  | .ok _ => (.ok (), { c with bindings.index := some buffer })

omit [Device δ P D] in
/-- The bytes of one slot of a buffer. -/
def readSlot [ReadableDevice δ] (c : Context δ P D) (buffer : BufferHandle) (slot : Nat) :
    Except Fault Bytes :=
  match c.buffers.find buffer with
  | .error fault => .error fault
  | .ok record =>
    if record.slotCount ≤ slot then
      .error (.invalidArgument (.slotOutOfRange slot record.slotCount))
    else
      match
        ReadableDevice.readBuffer record.buffer (record.slotOffset slot) record.size c.device with
      | some bytes => .ok bytes
      | none => .error (.invalidArgument .bufferNotReadable)

end Context

end RenderBridge
