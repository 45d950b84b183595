import RenderBridge.Fault
import RenderBridge.Native.Blend
import RenderBridge.Native.DepthStencil
import RenderBridge.Native.Primitive
/-!
The legacy numbers for render state, and the tables that read them.

Tables that say *how* to render (blend factor and equation, comparison, stencil operation, cull
face) take a neutral value for a number they do not list. Tables that say *what* to render
(primitive mode, index type) refuse it.

* `blendFactor`, `blendOperation`, `blendComponent`, `compareFunction`, `stencilOperation`,
  `cullFace`, `cullMode`: total tables.
* `topology`, `indexFormat`: partial tables.
-/

set_option autoImplicit false

namespace RenderBridge.Token

/-! ### Numbers -/

def zero : UInt32 := 0
def one : UInt32 := 1
def srcColor : UInt32 := 0x0300
def oneMinusSrcColor : UInt32 := 0x0301
def srcAlpha : UInt32 := 0x0302
def oneMinusSrcAlpha : UInt32 := 0x0303
def dstAlpha : UInt32 := 0x0304
def oneMinusDstAlpha : UInt32 := 0x0305
def dstColor : UInt32 := 0x0306
def oneMinusDstColor : UInt32 := 0x0307
def srcAlphaSaturate : UInt32 := 0x0308
def constantColor : UInt32 := 0x8001
def oneMinusConstantColor : UInt32 := 0x8002
def constantAlpha : UInt32 := 0x8003
def oneMinusConstantAlpha : UInt32 := 0x8004

def funcAdd : UInt32 := 0x8006
def funcMin : UInt32 := 0x8007
def funcMax : UInt32 := 0x8008
def funcSubtract : UInt32 := 0x800A
def funcReverseSubtract : UInt32 := 0x800B

def never : UInt32 := 0x0200
def less : UInt32 := 0x0201
def equal : UInt32 := 0x0202
def lessEqual : UInt32 := 0x0203
def greater : UInt32 := 0x0204
def notEqual : UInt32 := 0x0205
def greaterEqual : UInt32 := 0x0206
def always : UInt32 := 0x0207

def keep : UInt32 := 0x1E00
def replace : UInt32 := 0x1E01
def increment : UInt32 := 0x1E02
def decrement : UInt32 := 0x1E03
def invert : UInt32 := 0x150A
def incrementWrap : UInt32 := 0x8507
def decrementWrap : UInt32 := 0x8508

def front : UInt32 := 0x0404
def back : UInt32 := 0x0405

def points : UInt32 := 0
def lines : UInt32 := 1
def lineLoop : UInt32 := 2
def lineStrip : UInt32 := 3
def triangles : UInt32 := 4
def triangleStrip : UInt32 := 5
def triangleFan : UInt32 := 6

def byte : Nat := 0x1400
def unsignedByte : Nat := 0x1401
def short : Nat := 0x1402
def unsignedShort : Nat := 0x1403
def int : Nat := 0x1404
def unsignedInt : Nat := 0x1405
def float : Nat := 0x1406

/-! ### Blending -/

/-- The factors by their numbers. There is one blend constant, so the numbers for its color and
its alpha mean the same. -/
def blendFactors : List (UInt32 × BlendFactor) := [
  (zero, .zero), (one, .one),
  (srcColor, .src), (oneMinusSrcColor, .oneMinusSrc),
  (srcAlpha, .srcAlpha), (oneMinusSrcAlpha, .oneMinusSrcAlpha),
  (dstAlpha, .dstAlpha), (oneMinusDstAlpha, .oneMinusDstAlpha),
  (dstColor, .dst), (oneMinusDstColor, .oneMinusDst),
  (srcAlphaSaturate, .srcAlphaSaturated),
  (constantColor, .constant), (oneMinusConstantColor, .oneMinusConstant),
  (constantAlpha, .constant), (oneMinusConstantAlpha, .oneMinusConstant)]

/-- An unknown factor is one. -/
def blendFactor (token : UInt32) : BlendFactor := (blendFactors.lookup token).getD .one

def blendOperations : List (UInt32 × BlendOperation) := [
  (funcAdd, .add), (funcSubtract, .subtract), (funcReverseSubtract, .reverseSubtract),
  (funcMin, .min), (funcMax, .max)]

/-- An unknown equation adds. -/
def blendOperation (token : UInt32) : BlendOperation := (blendOperations.lookup token).getD .add

/-- How one component is blended. Minimum and maximum take no factors; both must then be one. -/
def blendComponent (src dst equation : UInt32) : BlendComponent :=
  match blendOperation equation with
  | .min => ⟨.one, .one, .min⟩
  | .max => ⟨.one, .one, .max⟩
  | operation => ⟨blendFactor src, blendFactor dst, operation⟩

/-! ### Depth and stencil -/

def compareFunctions : List (UInt32 × CompareFunction) := [
  (never, .never), (less, .less), (equal, .equal), (lessEqual, .lessEqual),
  (greater, .greater), (notEqual, .notEqual), (greaterEqual, .greaterEqual), (always, .always)]

/-- An unknown comparison always passes. -/
def compareFunction (token : UInt32) : CompareFunction :=
  (compareFunctions.lookup token).getD .always

def stencilOperations : List (UInt32 × StencilOperation) := [
  (keep, .keep), (zero, .zero), (replace, .replace),
  (increment, .incrementClamp), (decrement, .decrementClamp), (invert, .invert),
  (incrementWrap, .incrementWrap), (decrementWrap, .decrementWrap)]

/-- An unknown operation keeps the stored value. -/
def stencilOperation (token : UInt32) : StencilOperation :=
  (stencilOperations.lookup token).getD .keep

/-! ### Faces -/

def cullFaces : List (UInt32 × Face) := [(front, .front), (back, .back)]

/-- An unknown face is the back. So is the number for both faces, which pipelines cannot cull. -/
def cullFace (token : UInt32) : Face := (cullFaces.lookup token).getD .back

/-- The face that is culled, if any. -/
def cullMode (enabled : Bool) (face : UInt32) : Option Face :=
  if enabled then some (cullFace face) else none

/-! ### Draws -/

def topologies : List (UInt32 × Topology) := [
  (points, .pointList), (lines, .lineList), (lineStrip, .lineStrip),
  (triangles, .triangleList), (triangleStrip, .triangleStrip)]

/-- The modes that exist and that pipelines do not have. -/
def modesWithoutTopology : List UInt32 := [lineLoop, triangleFan]

def topology (mode : UInt32) : Except Fault Topology :=
  match topologies.lookup mode with
  | some topology => .ok topology
  | none =>
    if mode ∈ modesWithoutTopology then .error (.invalidArgument (.noNativeTopology mode))
    else .error (.invalidArgument (.unknownPrimitiveMode mode))

def indexFormats : List (Nat × IndexFormat) := [(unsignedShort, .uint16), (unsignedInt, .uint32)]

def indexFormat (token : UInt32) : Except Fault IndexFormat :=
  match indexFormats.lookup token.toNat with
  | some format => .ok format
  | none => .error (.invalidArgument (.unsupportedIndexType token))

end RenderBridge.Token
