import RenderBridge.Token
import RenderBridge.Vertex.Packed
/-!
Vertex layouts: the description a host sends, checked and read.

* `vertexFormat`: the format of a component type, count and normalisation, if there is one.
* `VertexElement.ofPacked`: one attribute, checked against the stride and the earlier ones.
* `VertexLayout.parse`: a whole description.
-/

set_option autoImplicit false

namespace RenderBridge

/-- What an attribute is for. -/
inductive VertexUsage
  | position
  | normal
  | color
  | uv
  | generic
deriving DecidableEq

/-- One attribute of a vertex. -/
structure VertexElement where
  location : Nat
  usage : VertexUsage
  format : VertexFormat
  offset : Nat
  uvIndex : Nat
deriving DecidableEq

/-- An attribute as a pipeline states it. -/
structure VertexAttribute where
  format : VertexFormat
  offset : Nat
  location : Nat
deriving DecidableEq

/-- The attributes of a vertex and the bytes from one vertex to the next. -/
structure VertexLayout where
  stride : Nat
  elements : List VertexElement
deriving DecidableEq

namespace VertexUsage

def name : VertexUsage → String
  | position => "Position"
  | normal => "Normal"
  | color => "Color"
  | uv => "Uv"
  | generic => "Generic"

def ofTag (tag : Int) : Except Fault VertexUsage :=
  if tag = 0 then .ok position
  else if tag = 1 then .ok normal
  else if tag = 2 then .ok color
  else if tag = 3 then .ok uv
  else if tag = 4 then .ok generic
  else .error (.invalidArgument (.unknownVertexUsage tag))

end VertexUsage

/-! ### Formats -/

/-- The formats by component type, component count and normalisation. -/
def vertexFormats : List ((Nat × Nat × Bool) × VertexFormat) := [
  ((Token.float, 1, false), .float32),
  ((Token.float, 2, false), .float32x2),
  ((Token.float, 3, false), .float32x3),
  ((Token.float, 4, false), .float32x4),
  ((Token.unsignedByte, 2, true), .unorm8x2),
  ((Token.unsignedByte, 4, true), .unorm8x4),
  ((Token.unsignedByte, 2, false), .uint8x2),
  ((Token.unsignedByte, 4, false), .uint8x4),
  ((Token.byte, 2, true), .snorm8x2),
  ((Token.byte, 4, true), .snorm8x4),
  ((Token.byte, 2, false), .sint8x2),
  ((Token.byte, 4, false), .sint8x4),
  ((Token.unsignedShort, 2, true), .unorm16x2),
  ((Token.unsignedShort, 4, true), .unorm16x4),
  ((Token.unsignedShort, 2, false), .uint16x2),
  ((Token.unsignedShort, 4, false), .uint16x4),
  ((Token.short, 2, true), .snorm16x2),
  ((Token.short, 4, true), .snorm16x4),
  ((Token.short, 2, false), .sint16x2),
  ((Token.short, 4, false), .sint16x4),
  ((Token.int, 1, false), .sint32),
  ((Token.int, 2, false), .sint32x2),
  ((Token.int, 3, false), .sint32x3),
  ((Token.int, 4, false), .sint32x4),
  ((Token.unsignedInt, 1, false), .uint32),
  ((Token.unsignedInt, 2, false), .uint32x2),
  ((Token.unsignedInt, 3, false), .uint32x3),
  ((Token.unsignedInt, 4, false), .uint32x4)]

/-- The format of `count` components of a type. Combinations that no format has give none; there is
no default. -/
def vertexFormat (type count : Nat) (normalized : Bool) : Option VertexFormat :=
  vertexFormats.lookup (type, count, normalized)

/-! ### Reading -/

/-- The number of attribute locations. -/
def maxAttributes : Nat := 16

/-- Reads the attribute at `position` of a description, after the elements `earlier`. -/
def VertexElement.ofPacked (stride position : Nat) (earlier : List VertexElement)
    (a : PackedAttribute) : Except Fault VertexElement :=
  let refuse (defect : AttributeDefect) : Except Fault VertexElement :=
    .error (.invalidArgument (.attributeDefect position defect))
  let type := a.componentType.toInt
  let count := a.componentCount.toInt
  let normalized := decide (a.normalized.toInt ≠ 0)
  let index := a.index.toInt
  match VertexUsage.ofTag a.usage.toInt with
  | .error fault => .error fault
  | .ok usage =>
    if index < 0 ∨ (maxAttributes : Int) ≤ index then refuse (.indexOutOfRange index)
    else if earlier.any fun e => e.location = index.toNat then
      refuse (.duplicateIndex index.toNat)
    else if type < 0 ∨ count < 0 then refuse .negativeTypeOrCount
    else
      match vertexFormat type.toNat count.toNat normalized with
      | none => refuse (.noFormat type.toNat count.toNat normalized)
      | some format =>
        if a.offset.toInt < 0 then refuse .negativeOffset
        else
          let offset := a.offset.toInt.toNat
          if stride < offset + format.size then refuse (.overrun format offset stride)
          else .ok ⟨index.toNat, usage, format, offset, a.uvIndex.toInt.toNat⟩

/-- Reads attributes in order after the elements `earlier`; the answer holds those too. -/
def VertexElement.ofPackedList (stride : Nat) :
    List VertexElement → List PackedAttribute → Except Fault (List VertexElement)
  | earlier, [] => .ok earlier
  | earlier, a :: rest =>
    match VertexElement.ofPacked stride earlier.length earlier a with
    | .ok element => ofPackedList stride (earlier ++ [element]) rest
    | .error fault => .error fault

namespace VertexLayout

/-- Reads a description of `count` attributes. -/
def parse (stride count : Int) (packed : Bytes) : Except Fault VertexLayout :=
  if stride ≤ 0 then .error (.invalidArgument (.strideNotPositive stride))
  else if count ≤ 0 then .error (.invalidArgument (.attributeCountNotPositive count))
  else
    let expected := count.toNat * PackedAttribute.size
    if packed.size ≠ expected then
      .error (.invalidArgument (.packedLength packed.size expected count))
    else
      match VertexElement.ofPackedList stride.toNat [] (unpackAttributes count.toNat packed) with
      | .ok elements => .ok ⟨stride.toNat, elements⟩
      | .error fault => .error fault

/-- The attributes as a pipeline states them. -/
def attributes (layout : VertexLayout) : List VertexAttribute :=
  layout.elements.map fun e => ⟨e.format, e.offset, e.location⟩

/-- The first element that holds positions. -/
def position (layout : VertexLayout) : Option VertexElement :=
  layout.elements.find? fun e => e.usage = .position

end VertexLayout

end RenderBridge
