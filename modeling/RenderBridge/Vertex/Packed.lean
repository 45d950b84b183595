import RenderBridge.Bytes
/-!
Vertex attributes as hosts send them: seven little-endian signed words of 32 bits each.

* `PackedAttribute.encode`, `packAttributes`: attributes as bytes.
* `PackedAttribute.decode`, `unpackAttributes`: the attributes in bytes.
-/

set_option autoImplicit false

namespace RenderBridge

/-- The words of one attribute in the order in which they are sent. -/
structure PackedAttribute where
  index : Int32
  usage : Int32
  componentType : Int32
  componentCount : Int32
  offset : Int32
  normalized : Int32
  uvIndex : Int32
deriving DecidableEq

namespace PackedAttribute

def words : Nat := 7

/-- The bytes of one attribute. -/
def size : Nat := words * 4

def encodeWord (w : Int32) : List UInt8 := littleEndian 4 w.toUInt32.toNat

/-- The word in the four bytes from `offset` on. -/
def decodeWord (bytes : Bytes) (offset : Nat) : Int32 :=
  (UInt32.ofNat (ofLittleEndian (bytes.slice offset 4).toList)).toInt32

def encode (a : PackedAttribute) : List UInt8 :=
  encodeWord a.index ++ encodeWord a.usage ++ encodeWord a.componentType ++
    encodeWord a.componentCount ++ encodeWord a.offset ++ encodeWord a.normalized ++
    encodeWord a.uvIndex

/-- The attribute in the bytes from `offset` on. -/
def decode (bytes : Bytes) (offset : Nat) : PackedAttribute where
  index := decodeWord bytes offset
  usage := decodeWord bytes (offset + 4)
  componentType := decodeWord bytes (offset + 8)
  componentCount := decodeWord bytes (offset + 12)
  offset := decodeWord bytes (offset + 16)
  normalized := decodeWord bytes (offset + 20)
  uvIndex := decodeWord bytes (offset + 24)

end PackedAttribute

/-- The bytes of a list of attributes. -/
def packAttributes (attributes : List PackedAttribute) : Bytes :=
  (attributes.flatMap PackedAttribute.encode).toArray

/-- The first `count` attributes in the bytes. -/
def unpackAttributes (count : Nat) (bytes : Bytes) : List PackedAttribute :=
  (List.range count).map fun i => PackedAttribute.decode bytes (i * PackedAttribute.size)

end RenderBridge
