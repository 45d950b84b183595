import RenderBridge.State.Snapshot
/-!
The live render state. A setting builds a candidate and takes its place only where the two differ;
`revision` counts the settings that changed something.

* `Setting`: one call that sets an aspect of the state.
* `Setting.edit`: the candidate, or why the setting is refused.
* `Tracker.apply`: the tracker after a setting, and whether the state changed.
-/

set_option autoImplicit false

namespace RenderBridge

/-- A call that sets one aspect of the render state. -/
inductive Setting
  | blendEnabled (enabled : Bool)
  | blendFactors (srcRgb dstRgb srcAlpha dstAlpha : UInt32)
  | blendEquations (rgb alpha : UInt32)
  | depth (state : DepthState)
  | stencil (state : StencilState)
  | cull (enabled : Bool) (face : UInt32)
  | scissor (enabled : Bool) (x y width height : Int)
  | viewport (x y width height : Int) (minDepth maxDepth : Single)
deriving DecidableEq

namespace Setting

/-- The depth range of a viewport, brought into `[0, 1]`. What is no number and a range that is
reversed are refused. -/
def depthRange (minDepth maxDepth : Single) : Except Fault (Single × Single) :=
  if minDepth.isNaN || maxDepth.isNaN then .error (.invalidArgument .depthRangeNaN)
  else
    let low := minDepth.clamp .zero .one
    let high := maxDepth.clamp .zero .one
    if high.lt low then .error (.invalidArgument (.depthRangeReversed low high))
    else .ok (low, high)

/-- The state with one aspect set. Widths and heights are at least one. -/
def edit (setting : Setting) (s : Snapshot) : Except Fault Snapshot :=
  match setting with
  | blendEnabled enabled => .ok { s with blend.enabled := enabled }
  | blendFactors srcRgb dstRgb srcAlpha dstAlpha =>
      .ok { s with blend := { s.blend with srcRgb, dstRgb, srcAlpha, dstAlpha } }
  | blendEquations rgb alpha =>
      .ok { s with blend := { s.blend with equationRgb := rgb, equationAlpha := alpha } }
  | depth state => .ok { s with depth := state }
  | stencil state => .ok { s with stencil := state }
  | cull enabled face => .ok { s with raster := ⟨enabled, face⟩ }
  | scissor enabled x y width height =>
      .ok { s with scissor := ⟨enabled, x, y, max width 1, max height 1⟩ }
  | viewport x y width height minDepth maxDepth =>
      match depthRange minDepth maxDepth with
      | .ok (low, high) => .ok { s with viewport := ⟨x, y, max width 1, max height 1, low, high⟩ }
      | .error fault => .error fault

end Setting

/-- The live render state. -/
structure Tracker where
  snapshot : Snapshot := {}
  /-- A host keeps it in 64 bits; as a number it goes on where that would overflow. -/
  revision : Nat := 0
deriving DecidableEq

namespace Tracker

/-- Takes a candidate where it differs from the current state. -/
def update (t : Tracker) (candidate : Snapshot) : Bool × Tracker :=
  if candidate.same t.snapshot then (false, t) else (true, ⟨candidate, t.revision + 1⟩)

/-- Applies a setting; the answer says whether the state changed. -/
def apply (t : Tracker) (setting : Setting) : Except Fault Bool × Tracker :=
  match setting.edit t.snapshot with
  | .ok candidate => let (changed, t) := t.update candidate; (.ok changed, t)
  | .error fault => (.error fault, t)

end Tracker

end RenderBridge
