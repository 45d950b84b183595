import RenderBridge.Native.Format
import RenderBridge.Number.Single
/-!
Depth and stencil tests as explicit pipelines state them.
-/

set_option autoImplicit false

namespace RenderBridge

/-- A comparison of an incoming with a stored value. -/
inductive CompareFunction
  | never
  | less
  | equal
  | lessEqual
  | greater
  | notEqual
  | greaterEqual
  | always
deriving DecidableEq

/-- What becomes of a stored stencil value. -/
inductive StencilOperation
  | keep
  | zero
  | replace
  | invert
  | incrementClamp
  | decrementClamp
  | incrementWrap
  | decrementWrap
deriving DecidableEq

/-- The stencil test of one face. -/
structure StencilFace where
  compare : CompareFunction
  failOp : StencilOperation
  depthFailOp : StencilOperation
  passOp : StencilOperation
deriving DecidableEq

/-- The stencil tests of both faces and their masks. -/
structure StencilTest where
  front : StencilFace
  back : StencilFace
  readMask : UInt32
  writeMask : UInt32
deriving DecidableEq

/-- What is added to depths before the test. None is ever asked for. -/
structure DepthBias where
  constant : Int := 0
  slopeScale : Single := .zero
  clamp : Single := .zero
deriving DecidableEq

/-- The depth-stencil part of a pipeline. -/
structure DepthStencilTest where
  format : TextureFormat
  depthWriteEnabled : Bool
  depthCompare : CompareFunction
  stencil : StencilTest
  bias : DepthBias := {}
deriving DecidableEq

namespace CompareFunction

def name : CompareFunction → String
  | never => "Never"
  | less => "Less"
  | equal => "Equal"
  | lessEqual => "LessEqual"
  | greater => "Greater"
  | notEqual => "NotEqual"
  | greaterEqual => "GreaterEqual"
  | always => "Always"

end CompareFunction

namespace StencilOperation

def name : StencilOperation → String
  | keep => "Keep"
  | zero => "Zero"
  | replace => "Replace"
  | invert => "Invert"
  | incrementClamp => "IncrementClamp"
  | decrementClamp => "DecrementClamp"
  | incrementWrap => "IncrementWrap"
  | decrementWrap => "DecrementWrap"

end StencilOperation

/-- A face that passes every fragment and changes nothing. -/
def StencilFace.ignore : StencilFace := ⟨.always, .keep, .keep, .keep⟩

/-- A stencil test that passes every fragment and changes nothing. -/
def StencilTest.ignore : StencilTest := ⟨.ignore, .ignore, 0, 0⟩

end RenderBridge
