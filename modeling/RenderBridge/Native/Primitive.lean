/-!
Primitives as explicit pipelines state them: topology, faces, winding, index width.
-/

set_option autoImplicit false

namespace RenderBridge

/-- A side of a triangle. -/
inductive Face
  | front
  | back
deriving DecidableEq

/-- The winding of front faces. Counter-clockwise is the only one used. -/
inductive FrontFace
  | ccw
deriving DecidableEq

/-- How vertices form primitives. -/
inductive Topology
  | pointList
  | lineList
  | lineStrip
  | triangleList
  | triangleStrip
deriving DecidableEq

/-- The width of the entries of an index buffer. -/
inductive IndexFormat
  | uint16
  | uint32
deriving DecidableEq

/-- How the inside of a triangle is drawn. Filling is the only way used. -/
inductive PolygonMode
  | fill
deriving DecidableEq

/-- How a pipeline forms and culls primitives. -/
structure PrimitiveSetup where
  topology : Topology
  stripIndexFormat : Option IndexFormat := none
  frontFace : FrontFace
  cullMode : Option Face
  unclippedDepth : Bool := false
  polygonMode : PolygonMode := .fill
  conservative : Bool := false
deriving DecidableEq

/-- How a pipeline samples; all samples are written. -/
structure Multisampling where
  count : UInt32
  mask : Nat := 0xffffffffffffffff
  alphaToCoverage : Bool := false
deriving DecidableEq

def PolygonMode.name : PolygonMode → String
  | .fill => "Fill"

def Face.name : Face → String
  | .front => "Front"
  | .back => "Back"

def FrontFace.name : FrontFace → String
  | .ccw => "Ccw"

namespace Topology

def all : List Topology := [pointList, lineList, lineStrip, triangleList, triangleStrip]

/-- The number that stands for the topology in a key's bytes. -/
def code (t : Topology) : Nat := t.ctorIdx

def name : Topology → String
  | pointList => "PointList"
  | lineList => "LineList"
  | lineStrip => "LineStrip"
  | triangleList => "TriangleList"
  | triangleStrip => "TriangleStrip"

end Topology

def IndexFormat.name : IndexFormat → String
  | .uint16 => "Uint16"
  | .uint32 => "Uint32"

/-- The winding emitted for every draw. -/
def frontFace : FrontFace := .ccw

end RenderBridge
