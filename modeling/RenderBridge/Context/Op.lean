import RenderBridge.Context.Draw
/-!
The operations of a host on a context as data, and runs of them.
-/

set_option autoImplicit false

namespace RenderBridge

/-- An operation of a host on a context. -/
inductive Op
  | set (setting : Setting)
  | resize (width height : Int) (scale : Single) (fullscreen : Bool)
  | clear (color : Color)
  | present
  | createBuffer (usage size : Int) (data : Option Bytes)
  | updateBuffer (buffer : BufferHandle) (offset : Int) (data : Option Bytes) (length : Int)
  | destroyBuffer (buffer : BufferHandle)
  | registerLayout (stride count : Int) (packed : Bytes)
  | bindVertex (buffer : BufferHandle) (layout : LayoutHandle)
  | bindIndex (buffer : BufferHandle)
  | draw (mode : UInt32) (first count : Int)
  | drawIndexed (mode : UInt32) (count : Int) (indexType : UInt32)
deriving DecidableEq

/-- What an operation answers where it succeeds. -/
inductive Reply
  | done
  | changed (changed : Bool)
  | buffer (handle : BufferHandle)
  | layout (handle : LayoutHandle)
deriving DecidableEq

namespace Op

variable {δ P D : Type}

/-- The answer of an operation with its value read as a reply. -/
def replyWith {α : Type} (reply : α → Reply) (outcome : Except Fault α × Context δ P D) :
    Except Fault Reply × Context δ P D :=
  match outcome with
  | (.ok value, c) => (.ok (reply value), c)
  | (.error fault, c) => (.error fault, c)

variable [Device δ P D]

/-- Performs an operation. -/
def apply (op : Op) (c : Context δ P D) : Except Fault Reply × Context δ P D :=
  match op with
  | set setting => replyWith .changed (c.set setting)
  | resize width height scale fullscreen =>
      replyWith (fun _ => .done) (c.resize width height scale fullscreen)
  | clear color => replyWith (fun _ => .done) (c.clear color)
  | present => replyWith (fun _ => .done) c.present
  | createBuffer usage size data => replyWith .buffer (c.createBuffer usage size data)
  | updateBuffer buffer offset data length =>
      replyWith (fun _ => .done) (c.updateBuffer buffer offset data length)
  | destroyBuffer buffer => replyWith (fun _ => .done) (c.destroyBuffer buffer)
  | registerLayout stride count packed =>
      replyWith .layout (c.registerLayout stride count packed)
  | bindVertex buffer layout => replyWith (fun _ => .done) (c.bindVertex buffer layout)
  | bindIndex buffer => replyWith (fun _ => .done) (c.bindIndex buffer)
  | draw mode first count => replyWith (fun _ => .done) (c.draw mode first count)
  | drawIndexed mode count indexType =>
      replyWith (fun _ => .done) (c.drawIndexed mode count indexType)

/-- The context after a list of operations. -/
def run (ops : List Op) (c : Context δ P D) : Context δ P D :=
  ops.foldl (fun c op => (op.apply c).2) c

end Op

end RenderBridge
