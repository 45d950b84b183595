/-!
How pictures reach the screen: presentation, compositing, the choice of an adapter, and the result
of asking a surface for its next texture.
-/

set_option autoImplicit false

namespace RenderBridge

/-- When a presented picture is shown. -/
inductive PresentMode
  | autoVsync
  | autoNoVsync
  | fifo
  | fifoRelaxed
  | immediate
  | mailbox
deriving DecidableEq

/-- How a surface's alpha is used when it is composed with what lies behind it. -/
inductive AlphaMode
  | automatic
  | solid
  | preMultiplied
  | postMultiplied
  | inherit
deriving DecidableEq

/-- Which kind of adapter is preferred. -/
inductive PowerPreference
  | none
  | lowPower
  | highPerformance
deriving DecidableEq

/-- What asking a surface for its next texture gives. -/
inductive SurfaceStatus
  | good
  | suboptimal
  | timeout
  | outdated
  | lost
  | outOfMemory
  | unknown
deriving DecidableEq

/-- Whether a window hands out what a surface is made from. -/
inductive WindowHandle
  | available
  | unsupported
  | unavailable
deriving DecidableEq

namespace PresentMode

def all : List PresentMode := [autoVsync, autoNoVsync, fifo, fifoRelaxed, immediate, mailbox]

def name : PresentMode → String
  | autoVsync => "AutoVsync"
  | autoNoVsync => "AutoNoVsync"
  | fifo => "Fifo"
  | fifoRelaxed => "FifoRelaxed"
  | immediate => "Immediate"
  | mailbox => "Mailbox"

end PresentMode

namespace AlphaMode

def all : List AlphaMode := [automatic, solid, preMultiplied, postMultiplied, inherit]

def name : AlphaMode → String
  | automatic => "Auto"
  | solid => "Opaque"
  | preMultiplied => "PreMultiplied"
  | postMultiplied => "PostMultiplied"
  | inherit => "Inherit"

/-- The requested mode where the surface supports it, else the first supported one. -/
def choose (supported : List AlphaMode) (requested : Option AlphaMode) : AlphaMode :=
  match requested with
  | some mode => if mode ∈ supported then mode else supported.headD automatic
  | none => supported.headD automatic

end AlphaMode

namespace PowerPreference

def all : List PowerPreference := [none, lowPower, highPerformance]

def name : PowerPreference → String
  | none => "None"
  | lowPower => "LowPower"
  | highPerformance => "HighPerformance"

end PowerPreference

namespace SurfaceStatus

/-- The statuses that a script of answers can name. -/
def all : List SurfaceStatus := [good, suboptimal, timeout, outdated, lost, unknown]

def name : SurfaceStatus → String
  | good => "Good"
  | suboptimal => "Suboptimal"
  | timeout => "Timeout"
  | outdated => "Outdated"
  | lost => "Lost"
  | outOfMemory => "OutOfMemory"
  | unknown => "Unknown"

/-- Whether a texture comes with the status. -/
def hasTexture : SurfaceStatus → Bool
  | good | suboptimal => true
  | _ => false

end SurfaceStatus

end RenderBridge
