import RenderBridge.Device.Basic
import RenderBridge.Table
/-!
The vertex layouts of a context, checked once and kept for good under handles issued in order.
-/

set_option autoImplicit false

namespace RenderBridge

/-- A registered layout and the device's form of it. -/
structure LayoutRecord where
  layout : VertexLayout
  native : VertexLayout
deriving DecidableEq

/-- The registered layouts and the number of the next one. -/
structure LayoutRegistry where
  records : Table LayoutHandle LayoutRecord := {}
  /-- A host keeps it in 64 bits, which the number behind the last handle overflows; here no handle
  is left then. -/
  nextNumber : Nat := 1

namespace LayoutRegistry

def size (r : LayoutRegistry) : Nat := r.records.size

def isEmpty (r : LayoutRegistry) : Bool := r.records.entries.isEmpty

/-- The layout under a handle. -/
def find (r : LayoutRegistry) (handle : LayoutHandle) : Except Fault LayoutRecord :=
  match r.records.get? handle with
  | some record => .ok record
  | none => .error (.invalidArgument (.unknownLayout handle.raw))

/-- Takes a layout in under the next handle. -/
def issue (r : LayoutRegistry) (record : LayoutRecord) :
    Except Fault LayoutHandle × LayoutRegistry :=
  match LayoutHandle.nth? r.nextNumber with
  | some handle =>
    (.ok handle,
      { records := r.records.insert handle record, nextNumber := r.nextNumber + 1 })
  | none => (.error (.invalidArgument .layoutHandlesExhausted), r)

variable {δ P D : Type} [Device δ P D]

/-- Reads a description and takes the layout in. -/
def register (r : LayoutRegistry) (stride count : Int) (packed : Bytes) (device : δ) :
    Except Fault LayoutHandle × LayoutRegistry × δ :=
  match VertexLayout.parse stride count packed with
  | .error fault => (.error fault, r, device)
  | .ok layout =>
    match Device.createLayout layout device with
    | (.error fault, device) => (.error (.ofDevice fault), r, device)
    | (.ok native, device) =>
      let (result, r) := r.issue ⟨layout, native⟩
      (result, r, device)

end LayoutRegistry

end RenderBridge
