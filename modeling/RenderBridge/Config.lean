import RenderBridge.Native.Format
import RenderBridge.Text.Blank
/-!
What a context is opened with: the drawable's size and format, and debug switches.

* `DebugFlags.ofRaw`, `bits`: the switches as bits of an integer.
* `DebugFlags.ofSettings`: the switches as two texts of the process environment.
-/

set_option autoImplicit false

namespace RenderBridge

/-- Debug behaviour asked for when a context is opened. -/
structure DebugFlags where
  /-- The device checks how it is used. -/
  validation : Bool := false
  /-- Device objects carry labels. -/
  labels : Bool := false
deriving DecidableEq

namespace DebugFlags

/-- The switches in a raw integer: bit 0 is validation, bit 1 labels, all others are dropped. -/
def ofRaw (raw : Int) : DebugFlags where
  validation := raw % 2 = 1
  labels := raw / 2 % 2 = 1

def bits (flags : DebugFlags) : Nat :=
  (if flags.validation then 1 else 0) + (if flags.labels then 2 else 0)

/-- The words that turn a switch on. -/
def onWords : List String := ["1", "true", "on", "yes"]

/-- Whether a setting turns its switch on: one of the words, in any case, with blanks around it.
A setting that is absent does not. -/
def isOn (setting : Option String) : Bool :=
  match setting with
  | some text => onWords.contains ((Blank.trim text).map Char.toLower)
  | none => false

/-- The switches that two settings ask for. -/
def ofSettings (validation labels : Option String) : DebugFlags := ⟨isOn validation, isOn labels⟩

end DebugFlags

/-- What a context is opened with. -/
structure Config where
  width : Int := 1
  height : Int := 1
  debugFlags : DebugFlags := {}
  /-- The color format of every pipeline. -/
  colorFormat : TextureFormat := .bgra8UnormSrgb
  sampleCount : UInt32 := 1
  /-- The first capacity of the staging ring in bytes. -/
  stagingCapacity : Nat := 0x100000
deriving DecidableEq

/-- Sample counts below one count as one. -/
def Config.effectiveSamples (config : Config) : UInt32 := max config.sampleCount 1

end RenderBridge
