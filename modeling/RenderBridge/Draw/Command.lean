import RenderBridge.Key
/-!
Draws as a device sees them: the state resolved for a draw, and what is drawn from which buffers.

* `DrawConfig`: the resolved state; `DrawConfig.commands`: the same as an ordered list of commands.
* `DrawCall`: the vertices or indices, and the buffers bound.
-/

set_option autoImplicit false

namespace RenderBridge

/-- A color with four components. -/
structure Color where
  red : Single
  green : Single
  blue : Single
  alpha : Single
deriving DecidableEq

/-- A scissor rectangle, with the origin at the lower left. -/
structure ScissorRect where
  x : Int
  y : Int
  width : Nat
  height : Nat
deriving DecidableEq

/-- A viewport, with the origin at the lower left. -/
structure ViewportRect where
  x : Single
  y : Single
  width : Single
  height : Single
  minDepth : Single
  maxDepth : Single
deriving DecidableEq

/-- One command of a draw. -/
inductive DrawCommand (P D : Type)
  | pipeline (pipeline : P)
  | depthStencil (depthStencil : D)
  | cull (face : Option Face)
  | frontFace (face : FrontFace)
  | scissor (rect : ScissorRect)
  | viewport (rect : ViewportRect)
  | stencilReference (value : Nat)
deriving DecidableEq

/-- The state resolved for one draw. -/
structure DrawConfig (P D : Type) where
  pipelineKey : PipelineKey
  depthStencilKey : DepthStencilKey
  pipeline : P
  depthStencil : D
  cull : Option Face
  /-- Present where the scissor test is enabled. -/
  scissor : Option ScissorRect
  viewport : ViewportRect
  /-- Present where the stencil test is enabled. -/
  stencilReference : Option Nat
deriving DecidableEq

/-- The resolved state in the order in which it is set. -/
def DrawConfig.commands {P D : Type} (c : DrawConfig P D) : List (DrawCommand P D) :=
  [.pipeline c.pipeline, .depthStencil c.depthStencil, .cull c.cull, .frontFace frontFace] ++
    (c.scissor.map .scissor).toList ++ [.viewport c.viewport] ++
    (c.stencilReference.map .stencilReference).toList

/-- A device's name for a buffer. -/
abbrev BufferId := Nat

/-- A range of a device buffer bound for a draw. -/
structure BufferBinding where
  buffer : BufferId
  offset : Nat
  size : Nat
deriving DecidableEq

/-- What is drawn. -/
inductive DrawKind
  | vertices (first count : Nat)
  | indexed (count : Nat) (format : IndexFormat)
deriving DecidableEq

/-- A draw, beside the state it is made with. -/
structure DrawCall where
  kind : DrawKind
  vertex : Option BufferBinding
  index : Option BufferBinding
deriving DecidableEq

end RenderBridge
