/-!
Single-precision numbers as their bit patterns, with the arithmetic done exactly on integers.

Every finite single is a whole number of steps of `2 ^ (-149)`, the smallest positive one. So a
sum is an exact sum of integers followed by one rounding (`ofSteps`), and a comparison is a
comparison of integers.

* `Single.steps`: the exact value of a finite single, in steps.
* `Single.ofSteps`: the single nearest to a whole number of steps, ties to the even neighbour.
* `add`, `sub`, `lt`, `le`, `eq`, `max`, `min`, `clamp`: arithmetic and order.
* `toWord`, `widen`: the integer part as a 32-bit word, and the bits of the equal double.
-/

set_option autoImplicit false

namespace RenderBridge

/-- A single-precision number, given by its bits: sign, eight bits of exponent, 23 of fraction. -/
structure Single where
  bits : UInt32
deriving DecidableEq

namespace Single

/-! ### Fields and exact value -/

/-- The weight of the sign bit. -/
def signBit : Nat := 0x80000000

/-- The weight of the lowest bit of the exponent. It is also that of the leading bit of a number,
which is not stored. -/
def hiddenBit : Nat := 0x800000

/-- The steps in one. -/
def stepsOfOne : Nat := Nat.pow 2 149

/-- The sign bit. -/
def negative (x : Single) : Bool := signBit ≤ x.bits.toNat

/-- The bits below the sign; they grow with the absolute value. -/
def magnitude (x : Single) : Nat := x.bits.toNat % signBit

/-- The magnitude of infinity; greater ones are no numbers. -/
def infinityMagnitude : Nat := 0x7f800000

def isNaN (x : Single) : Bool := infinityMagnitude < x.magnitude

def isInfinite (x : Single) : Bool := x.magnitude == infinityMagnitude

def isFinite (x : Single) : Bool := x.magnitude < infinityMagnitude

/-- The number with the given sign and magnitude field. -/
def ofFields (negative : Bool) (magnitude : Nat) : Single :=
  ⟨UInt32.ofNat (magnitude + if negative then signBit else 0)⟩

def zero : Single := ⟨0⟩
def one : Single := ⟨0x3f800000⟩
def nan : Single := ⟨0x7fc00000⟩

/-- The absolute value of a finite single in steps of `2 ^ (-149)`. -/
def absSteps (x : Single) : Nat :=
  if x.magnitude / hiddenBit = 0 then x.magnitude % hiddenBit
  else (hiddenBit + x.magnitude % hiddenBit) * Nat.pow 2 (x.magnitude / hiddenBit - 1)

/-- The value of a finite single in steps of `2 ^ (-149)`. -/
def steps (x : Single) : Int :=
  if x.negative then -(x.absSteps : Int) else x.absSteps

/-! ### Rounding -/

/-- The quotient of `n` by `2 ^ shift`, rounded to nearest, a half to the even neighbour. -/
def roundShift (n shift : Nat) : Nat :=
  let whole := Nat.pow 2 shift
  let kept := n / whole
  let rest := n % whole
  if whole < 2 * rest ∨ (2 * rest = whole ∧ kept % 2 = 1) then kept + 1 else kept

/-- The magnitude nearest to `n` steps. Twenty-four leading bits are kept; a carry out of them moves
into the exponent field by itself, and what is too large becomes infinite. -/
def roundMagnitude (n : Nat) : Nat :=
  let shift := n.log2 - 23
  Nat.min (shift * hiddenBit + roundShift n shift) infinityMagnitude

/-- The single nearest to `z` steps; zero is positive. -/
def ofSteps (z : Int) : Single := ofFields (z < 0) (roundMagnitude z.natAbs)

/-- The single nearest to an integer. -/
def ofInt (z : Int) : Single := ofSteps (z * stepsOfOne)

/-! ### Arithmetic -/

def neg (x : Single) : Single := ofFields (!x.negative) x.magnitude

/-- The sum of two finite singles: exact, then rounded. A zero sum is negative only when both
operands are. -/
def addFinite (x y : Single) : Single :=
  let sum := x.steps + y.steps
  if sum = 0 then ofFields (x.negative && y.negative) 0 else ofSteps sum

def add (x y : Single) : Single :=
  if x.isNaN || y.isNaN then nan
  else if x.isInfinite then
    if y.isInfinite && x.negative != y.negative then nan else x
  else if y.isInfinite then y
  else addFinite x y

def sub (x y : Single) : Single := add x y.neg

/-- Twice `x`. -/
def double (x : Single) : Single := add x x

/-! ### Order -/

/-- The magnitude with its sign: it orders all numbers, infinities included, and both zeros are
`0`. -/
def rank (x : Single) : Int := if x.negative then -(x.magnitude : Int) else x.magnitude

def lt (x y : Single) : Bool := !x.isNaN && !y.isNaN && x.rank < y.rank

def le (x y : Single) : Bool := !x.isNaN && !y.isNaN && x.rank ≤ y.rank

/-- Numeric equality: the two zeros are equal, and what is no number equals nothing. -/
def eq (x y : Single) : Bool := !x.isNaN && !y.isNaN && x.rank == y.rank

/-- The greater operand; the positive one of two zeros, and the other one where one is no number. -/
def max (x y : Single) : Single :=
  if x.isNaN then y else if lt x y || (eq x y && x.negative) then y else x

/-- The smaller operand; the negative one of two zeros, and the other one where one is no number. -/
def min (x y : Single) : Single :=
  if x.isNaN then y else if lt y x || (eq x y && y.negative) then y else x

/-- `x` brought into `[low, high]`; what is no number stays. -/
def clamp (x low high : Single) : Single :=
  if lt x low then low else if lt high x then high else x

/-! ### Conversions -/

/-- The integer part as a 32-bit word; outside its range the nearest word, `0` for no number. -/
def toWord (x : Single) : Nat :=
  if x.isNaN || x.negative then 0
  else if x.isInfinite then 0xffffffff
  else Nat.min (x.absSteps / stepsOfOne) 0xffffffff

/-- The magnitude field of the double that equals `n` steps, for a positive `n`. -/
def widenSteps (n : Nat) : Nat :=
  let hidden := 0x10000000000000
  (n.log2 + 874) * hidden + (n * hidden / Nat.pow 2 n.log2 - hidden)

/-- The bits of the double with the same value. -/
def widen (x : Single) : UInt64 :=
  let magnitude :=
    if x.isNaN then 0x7ff8000000000000
    else if x.isInfinite then 0x7ff0000000000000
    else if x.absSteps = 0 then 0
    else widenSteps x.absSteps
  UInt64.ofNat (magnitude + if x.negative then 0x8000000000000000 else 0)

end Single

end RenderBridge
