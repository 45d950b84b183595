/-!
Formats of textures and of vertex attributes.

* `TextureFormat.code`: the number that stands for a texture format in a key's bytes.
* `VertexFormat.size`: the bytes one attribute takes; `VertexFormat.isFloat`: whether a shader reads
  it as floating-point values.
-/

set_option autoImplicit false

namespace RenderBridge

/-- The texture formats in use, in the order of their codes. A graphics library has further ones,
some with more to them than a code. -/
inductive TextureFormat
  | r8Unorm
  | r8Snorm
  | r8Uint
  | r8Sint
  | r16Uint
  | r16Sint
  | r16Unorm
  | r16Snorm
  | r16Float
  | rg8Unorm
  | rg8Snorm
  | rg8Uint
  | rg8Sint
  | r32Uint
  | r32Sint
  | r32Float
  | rg16Uint
  | rg16Sint
  | rg16Unorm
  | rg16Snorm
  | rg16Float
  | rgba8Unorm
  | rgba8UnormSrgb
  | rgba8Snorm
  | rgba8Uint
  | rgba8Sint
  | bgra8Unorm
  | bgra8UnormSrgb
  | rgb9e5Ufloat
  | rgb10a2Uint
  | rgb10a2Unorm
  | rg11b10Ufloat
  | r64Uint
  | rg32Uint
  | rg32Sint
  | rg32Float
  | rgba16Uint
  | rgba16Sint
  | rgba16Unorm
  | rgba16Snorm
  | rgba16Float
  | rgba32Uint
  | rgba32Sint
  | rgba32Float
  | stencil8
  | depth16Unorm
  | depth24Plus
  | depth24PlusStencil8
  | depth32Float
  | depth32FloatStencil8
  | nv12
  | p010
deriving DecidableEq

namespace TextureFormat

def all : List TextureFormat := [
  r8Unorm, r8Snorm, r8Uint, r8Sint, r16Uint, r16Sint, r16Unorm, r16Snorm, r16Float, rg8Unorm,
  rg8Snorm, rg8Uint, rg8Sint, r32Uint, r32Sint, r32Float, rg16Uint, rg16Sint, rg16Unorm,
  rg16Snorm, rg16Float, rgba8Unorm, rgba8UnormSrgb, rgba8Snorm, rgba8Uint, rgba8Sint,
  bgra8Unorm, bgra8UnormSrgb, rgb9e5Ufloat, rgb10a2Uint, rgb10a2Unorm, rg11b10Ufloat, r64Uint,
  rg32Uint, rg32Sint, rg32Float, rgba16Uint, rgba16Sint, rgba16Unorm, rgba16Snorm, rgba16Float,
  rgba32Uint, rgba32Sint, rgba32Float, stencil8, depth16Unorm, depth24Plus, depth24PlusStencil8,
  depth32Float, depth32FloatStencil8, nv12, p010]

/-- The number that stands for the format in a key's bytes. -/
def code (f : TextureFormat) : Nat := f.ctorIdx

def name : TextureFormat → String
  | r8Unorm => "R8Unorm"
  | r8Snorm => "R8Snorm"
  | r8Uint => "R8Uint"
  | r8Sint => "R8Sint"
  | r16Uint => "R16Uint"
  | r16Sint => "R16Sint"
  | r16Unorm => "R16Unorm"
  | r16Snorm => "R16Snorm"
  | r16Float => "R16Float"
  | rg8Unorm => "Rg8Unorm"
  | rg8Snorm => "Rg8Snorm"
  | rg8Uint => "Rg8Uint"
  | rg8Sint => "Rg8Sint"
  | r32Uint => "R32Uint"
  | r32Sint => "R32Sint"
  | r32Float => "R32Float"
  | rg16Uint => "Rg16Uint"
  | rg16Sint => "Rg16Sint"
  | rg16Unorm => "Rg16Unorm"
  | rg16Snorm => "Rg16Snorm"
  | rg16Float => "Rg16Float"
  | rgba8Unorm => "Rgba8Unorm"
  | rgba8UnormSrgb => "Rgba8UnormSrgb"
  | rgba8Snorm => "Rgba8Snorm"
  | rgba8Uint => "Rgba8Uint"
  | rgba8Sint => "Rgba8Sint"
  | bgra8Unorm => "Bgra8Unorm"
  | bgra8UnormSrgb => "Bgra8UnormSrgb"
  | rgb9e5Ufloat => "Rgb9e5Ufloat"
  | rgb10a2Uint => "Rgb10a2Uint"
  | rgb10a2Unorm => "Rgb10a2Unorm"
  | rg11b10Ufloat => "Rg11b10Ufloat"
  | r64Uint => "R64Uint"
  | rg32Uint => "Rg32Uint"
  | rg32Sint => "Rg32Sint"
  | rg32Float => "Rg32Float"
  | rgba16Uint => "Rgba16Uint"
  | rgba16Sint => "Rgba16Sint"
  | rgba16Unorm => "Rgba16Unorm"
  | rgba16Snorm => "Rgba16Snorm"
  | rgba16Float => "Rgba16Float"
  | rgba32Uint => "Rgba32Uint"
  | rgba32Sint => "Rgba32Sint"
  | rgba32Float => "Rgba32Float"
  | stencil8 => "Stencil8"
  | depth16Unorm => "Depth16Unorm"
  | depth24Plus => "Depth24Plus"
  | depth24PlusStencil8 => "Depth24PlusStencil8"
  | depth32Float => "Depth32Float"
  | depth32FloatStencil8 => "Depth32FloatStencil8"
  | nv12 => "NV12"
  | p010 => "P010"

end TextureFormat

/-- The format of the depth-stencil target. -/
def depthStencilFormat : TextureFormat := .depth24PlusStencil8

/-- The formats in which vertex attributes are read. -/
inductive VertexFormat
  | float32
  | float32x2
  | float32x3
  | float32x4
  | unorm8x2
  | unorm8x4
  | uint8x2
  | uint8x4
  | snorm8x2
  | snorm8x4
  | sint8x2
  | sint8x4
  | unorm16x2
  | unorm16x4
  | uint16x2
  | uint16x4
  | snorm16x2
  | snorm16x4
  | sint16x2
  | sint16x4
  | sint32
  | sint32x2
  | sint32x3
  | sint32x4
  | uint32
  | uint32x2
  | uint32x3
  | uint32x4
deriving DecidableEq

namespace VertexFormat

def name : VertexFormat → String
  | float32 => "Float32"
  | float32x2 => "Float32x2"
  | float32x3 => "Float32x3"
  | float32x4 => "Float32x4"
  | unorm8x2 => "Unorm8x2"
  | unorm8x4 => "Unorm8x4"
  | uint8x2 => "Uint8x2"
  | uint8x4 => "Uint8x4"
  | snorm8x2 => "Snorm8x2"
  | snorm8x4 => "Snorm8x4"
  | sint8x2 => "Sint8x2"
  | sint8x4 => "Sint8x4"
  | unorm16x2 => "Unorm16x2"
  | unorm16x4 => "Unorm16x4"
  | uint16x2 => "Uint16x2"
  | uint16x4 => "Uint16x4"
  | snorm16x2 => "Snorm16x2"
  | snorm16x4 => "Snorm16x4"
  | sint16x2 => "Sint16x2"
  | sint16x4 => "Sint16x4"
  | sint32 => "Sint32"
  | sint32x2 => "Sint32x2"
  | sint32x3 => "Sint32x3"
  | sint32x4 => "Sint32x4"
  | uint32 => "Uint32"
  | uint32x2 => "Uint32x2"
  | uint32x3 => "Uint32x3"
  | uint32x4 => "Uint32x4"

/-- The bytes that one attribute takes. -/
def size : VertexFormat → Nat
  | unorm8x2 | uint8x2 | snorm8x2 | sint8x2 => 2
  | float32 | unorm8x4 | uint8x4 | snorm8x4 | sint8x4 | unorm16x2 | uint16x2 | snorm16x2 |
    sint16x2 | sint32 | uint32 => 4
  | float32x2 | unorm16x4 | uint16x4 | snorm16x4 | sint16x4 | sint32x2 | uint32x2 => 8
  | float32x3 | sint32x3 | uint32x3 => 12
  | float32x4 | sint32x4 | uint32x4 => 16

/-- Whether a shader reads the attribute as floating-point values: all but plain integers. -/
def isFloat : VertexFormat → Bool
  | uint8x2 | uint8x4 | sint8x2 | sint8x4 | uint16x2 | uint16x4 | sint16x2 | sint16x4 | sint32 |
    sint32x2 | sint32x3 | sint32x4 | uint32 | uint32x2 | uint32x3 | uint32x4 => false
  | _ => true

end VertexFormat

end RenderBridge
