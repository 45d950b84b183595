import RenderBridge.Context.Basic
/-!
Draws of a context. The arguments are checked first, a draw of nothing ends there, and otherwise the
draw is resolved against the current state, encoded and submitted as one unit.

* `Context.drawInputs`: the ranges that a draw reads, and the layout of its vertices.
* `Context.drawUnit`: a draw whose arguments are good.
* `Context.draw`, `drawIndexed`: the operations of the host.
-/

set_option autoImplicit false

namespace RenderBridge

/-- What a draw reads: the bound ranges, and the layout of the vertices. -/
structure DrawInputs where
  vertex : Option BufferBinding
  index : Option BufferBinding
  layout : Option (LayoutHandle × VertexLayout)
deriving DecidableEq

namespace Context

variable {δ P D : Type}

/-- The range of a bound buffer, if one is bound. -/
def bindingOf (c : Context δ P D) (buffer : Option BufferHandle) :
    Except Fault (Option BufferBinding) :=
  match buffer with
  | none => .ok none
  | some buffer =>
    match c.buffers.binding buffer c.serial with
    | .ok binding => .ok (some binding)
    | .error fault => .error fault

/-- The layout of the bound vertices, if any are bound. -/
def boundLayout (c : Context δ P D) : Except Fault (Option (LayoutHandle × VertexLayout)) :=
  match c.bindings.vertex with
  | none => .ok none
  | some (_, handle) =>
    match c.layouts.find handle with
    | .ok record => .ok (some (handle, record.native))
    | .error fault => .error fault

/-- What a draw reads. An indexed draw needs a bound index buffer. -/
def drawInputs (c : Context δ P D) (kind : DrawKind) : Except Fault DrawInputs :=
  match kind, c.bindings.index with
  | .indexed .., none => .error (.invalidArgument .indexBufferUnbound)
  | _, _ =>
    match c.bindingOf (c.bindings.vertex.map (·.1)) with
    | .error fault => .error fault
    | .ok vertex =>
      match c.bindingOf c.bindings.index with
      | .error fault => .error fault
      | .ok index =>
        match c.boundLayout with
        | .error fault => .error fault
        | .ok layout => .ok ⟨vertex, index, layout⟩

/-- What a draw goes to, beside the render state. -/
def drawTarget (c : Context δ P D) (topology : Topology) (layout : Option LayoutHandle) :
    DrawTarget where
  colorFormat := c.config.colorFormat
  sampleCount := c.config.effectiveSamples
  topology := topology
  vertexLayout := layout

variable [Device δ P D]

/-- Resolves, encodes and submits a draw. Where resolving fails nothing is submitted. -/
def drawUnit (c : Context δ P D) (topology : Topology) (kind : DrawKind) :
    Except Fault Unit × Context δ P D :=
  match c.drawInputs kind with
  | .error fault => (.error fault, c)
  | .ok inputs =>
    let target := c.drawTarget topology (inputs.layout.map (·.1))
    match DrawConfig.resolve c.tracker.snapshot target (inputs.layout.map (·.2)) c.cache
        c.device with
    | (.error fault, cache, device) => (.error fault, { c with cache, device })
    | (.ok config, cache, device) =>
      let (encoded, device) :=
        Device.encodeDraw config ⟨kind, inputs.vertex, inputs.index⟩ device
      { c with cache, device }.submitUnit encoded

/-- Draws `count` vertices from `first` on. -/
def draw (c : Context δ P D) (mode : UInt32) (first count : Int) :
    Except Fault Unit × Context δ P D :=
  match Token.topology mode with
  | .error fault => (.error fault, c)
  | .ok topology =>
    if first < 0 ∨ count < 0 then (.error (.invalidArgument (.negativeDrawRange first count)), c)
    else if count = 0 then (.ok (), c)
    else c.drawUnit topology (.vertices first.toNat count.toNat)

/-- Draws the vertices that `count` indices of the bound index buffer name. -/
def drawIndexed (c : Context δ P D) (mode : UInt32) (count : Int) (indexType : UInt32) :
    Except Fault Unit × Context δ P D :=
  match Token.topology mode with
  | .error fault => (.error fault, c)
  | .ok topology =>
    match Token.indexFormat indexType with
    | .error fault => (.error fault, c)
    | .ok format =>
      if count < 0 then (.error (.invalidArgument (.negativeIndexCount count)), c)
      else if count = 0 then (.ok (), c)
      else c.drawUnit topology (.indexed count.toNat format)

end Context

end RenderBridge
