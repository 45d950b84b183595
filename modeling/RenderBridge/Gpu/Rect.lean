import RenderBridge.Number.Single
/-!
Rectangles on a target, from the origin at the lower left to the one at the top left.

* `Rect.flip`: a viewport turned over, without clipping, so that what lies partly off the target
  keeps its mapping.
* `Rect.flipAndClip`: a scissor rectangle turned over and cut to the target.
* `Rect.inBounds`: the placement of viewports that a device takes.
-/

set_option autoImplicit false

namespace RenderBridge

/-- A rectangle by its corner and size. -/
structure Rect where
  x : Single
  y : Single
  width : Single
  height : Single
deriving DecidableEq

namespace Rect

/-- The rectangle with the origin at the top left of a target of this height. -/
def flip (r : Rect) (targetHeight : Nat) : Rect :=
  { r with y := (Single.ofInt targetHeight).sub (r.y.add r.height) }

/-- The part of the rectangle on the target, with the origin at the top left; none where nothing is
left. -/
def flipAndClip (r : Rect) (targetWidth targetHeight : Nat) : Option Rect :=
  let tw := Single.ofInt targetWidth
  let th := Single.ofInt targetHeight
  let top := th.sub (r.y.add r.height)
  let x0 := r.x.max .zero
  let y0 := top.max .zero
  let x1 := (r.x.add r.width).min tw
  let y1 := (top.add r.height).min th
  if x0.lt x1 && y0.lt y1 then some ⟨x0, y0, x1.sub x0, y1.sub y0⟩ else none

/-- Whether a device takes a viewport: no larger than the largest texture, and within twice that of
the origin on either side. -/
def inBounds (r : Rect) (maxDimension : Nat) : Bool :=
  let max := Single.ofInt maxDimension
  let range := max.double
  let edge := range.sub .one
  Single.le .zero r.width && r.width.le max && Single.le .zero r.height && r.height.le max &&
    range.neg.le r.x && range.neg.le r.y && (r.x.add r.width).le edge && (r.y.add r.height).le edge

end Rect

end RenderBridge
