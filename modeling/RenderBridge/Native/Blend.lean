import RenderBridge.Native.Format
/-!
Blending as explicit pipelines state it: factors, operations, and what blends one component.
-/

set_option autoImplicit false

namespace RenderBridge

/-- What a color is multiplied by before blending. -/
inductive BlendFactor
  | zero
  | one
  | src
  | oneMinusSrc
  | srcAlpha
  | oneMinusSrcAlpha
  | dst
  | oneMinusDst
  | dstAlpha
  | oneMinusDstAlpha
  | srcAlphaSaturated
  | constant
  | oneMinusConstant
deriving DecidableEq

/-- How the two weighted colors are combined. -/
inductive BlendOperation
  | add
  | subtract
  | reverseSubtract
  | min
  | max
deriving DecidableEq

/-- How one component, color or alpha, is blended. -/
structure BlendComponent where
  srcFactor : BlendFactor
  dstFactor : BlendFactor
  operation : BlendOperation
deriving DecidableEq

/-- How a color target is blended. -/
structure BlendFunction where
  color : BlendComponent
  alpha : BlendComponent
deriving DecidableEq

/-- A color target of a pipeline; all four channels are written. -/
structure ColorTarget where
  format : TextureFormat
  blend : Option BlendFunction
  writeMask : Nat := 15
deriving DecidableEq

namespace BlendFactor

def name : BlendFactor → String
  | zero => "Zero"
  | one => "One"
  | src => "Src"
  | oneMinusSrc => "OneMinusSrc"
  | srcAlpha => "SrcAlpha"
  | oneMinusSrcAlpha => "OneMinusSrcAlpha"
  | dst => "Dst"
  | oneMinusDst => "OneMinusDst"
  | dstAlpha => "DstAlpha"
  | oneMinusDstAlpha => "OneMinusDstAlpha"
  | srcAlphaSaturated => "SrcAlphaSaturated"
  | constant => "Constant"
  | oneMinusConstant => "OneMinusConstant"

end BlendFactor

namespace BlendOperation

def name : BlendOperation → String
  | add => "Add"
  | subtract => "Subtract"
  | reverseSubtract => "ReverseSubtract"
  | min => "Min"
  | max => "Max"

end BlendOperation

end RenderBridge
