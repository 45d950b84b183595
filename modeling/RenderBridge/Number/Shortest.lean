import RenderBridge.Number.Single
/-!
Decimal text of singles: the fewest digits that read back as the same number, the nearest of
those, always written in positional notation.

* `Single.shortest`: the digits and the power of ten.
* `Decimal.positional`: a decimal without an exponent.
* `Single.text`: integral values without a point; `Single.pointText`: with `.0`.
-/

set_option autoImplicit false

namespace RenderBridge

/-- The number `digits · 10 ^ exponent`. -/
structure Decimal where
  digits : Nat
  exponent : Int
deriving DecidableEq

namespace Decimal

/-- The same number with no zero at the end of its digits. At most `fuel` zeros are dropped. -/
def trim : Nat → Decimal → Decimal
  | 0, d => d
  | fuel + 1, d =>
    if d.digits ≠ 0 ∧ d.digits % 10 = 0 then trim fuel ⟨d.digits / 10, d.exponent + 1⟩ else d

/-- The digits before and after the point. -/
def positional (d : Decimal) : String × String :=
  let digits := toString d.digits
  if 0 ≤ d.exponent then
    (digits ++ String.ofList (List.replicate d.exponent.toNat '0'), "")
  else
    let places := (-d.exponent).toNat
    let padded := List.replicate (places + 1 - digits.length) '0' ++ digits.toList
    (String.ofList (padded.take (padded.length - places)),
      String.ofList (padded.drop (padded.length - places)))

end Decimal

namespace Single

/-! ### The interval that reads back -/

/-- The distance to the next greater single, in steps. -/
def gap (x : Single) : Nat := Nat.pow 2 (x.magnitude / hiddenBit - 1)

/-- Whether the distance to the next smaller single is half of that to the next greater one. -/
def narrowBelow (x : Single) : Bool := x.magnitude % hiddenBit == 0 && 1 < x.magnitude / hiddenBit

/-- The lower end of the reals that round to `x`, in quarter steps. -/
def lowerEnd (x : Single) : Nat :=
  4 * x.absSteps - if x.narrowBelow then x.gap else 2 * x.gap

/-- The upper end of the reals that round to `x`, in quarter steps. -/
def upperEnd (x : Single) : Nat := 4 * x.absSteps + 2 * x.gap

/-- A tie goes to the even neighbour, so the ends belong to the interval of an even number. -/
def closedEnds (x : Single) : Bool := x.magnitude % 2 == 0

/-! ### Grids of decimals -/

/-- `a · 10 ^ grid` against `b` quarter steps, both scaled to integers. -/
def scaleDecimal (a : Nat) (grid : Int) : Nat :=
  a * Nat.pow 10 grid.toNat * (4 * stepsOfOne)

def scaleQuarters (b : Nat) (grid : Int) : Nat := b * Nat.pow 10 (-grid).toNat

/-- Whether `a · 10 ^ grid` reads back as `x`. -/
def readsBack (x : Single) (a : Nat) (grid : Int) : Bool :=
  let value := scaleDecimal a grid
  let low := scaleQuarters x.lowerEnd grid
  let high := scaleQuarters x.upperEnd grid
  if x.closedEnds then low ≤ value && value ≤ high else low < value && value < high

/-- The decimal on the grid that reads back as `x`: of two, the nearer, and on a tie the greater. -/
def onGrid (x : Single) (grid : Int) : Option Decimal :=
  let value := scaleQuarters (4 * x.absSteps) grid
  let below := value / scaleDecimal 1 grid
  let down := x.readsBack below grid
  let up := x.readsBack (below + 1) grid
  let upNearer := scaleDecimal (below + 1) grid - value ≤ value - scaleDecimal below grid
  if up && (!down || upNearer) then some ⟨below + 1, grid⟩
  else if down then some ⟨below, grid⟩
  else none

/-- The number of digits before the point of `x`, counted below zero for leading zeros after it. -/
def decimalPoint (x : Single) : Int :=
  let candidates := (List.range 85).map fun (i : Nat) => (i : Int) - 44
  let isBelow (point : Int) : Bool :=
    scaleQuarters (4 * x.absSteps) point < scaleDecimal 1 point
  (candidates.find? isBelow).getD 40

/-- The shortest decimal that reads back as the finite number `x`, without its sign. Nine digits
always suffice. -/
def shortest (x : Single) : Decimal :=
  if x.absSteps = 0 then ⟨0, 0⟩
  else
    let grids := (List.range 9).map fun (i : Nat) => x.decimalPoint - (i + 1 : Int)
    ((grids.findSome? x.onGrid).getD ⟨0, 0⟩).trim 9

/-! ### Text -/

/-- Text with a rule for integral values: what follows their digits. -/
def textWith (integral : String) (x : Single) : String :=
  if x.isNaN then "NaN"
  else
    let sign := if x.negative then "-" else ""
    if x.isInfinite then sign ++ "inf"
    else
      let (whole, fraction) := x.shortest.positional
      sign ++ whole ++ if fraction.isEmpty then integral else "." ++ fraction

/-- Positional text; integral values have no point. -/
def text (x : Single) : String := x.textWith ""

/-- Positional text; integral values end in `.0`. -/
def pointText (x : Single) : String := x.textWith ".0"

end Single

end RenderBridge
