/-!
Rounding on unsigned 64-bit sizes. Sizes are natural numbers; the width shows only at the top of
the range, where a rounding that would leave it stays at the greatest multiple inside.

* `alignUp value alignment`: the multiple of `alignment` that `value` is rounded up to.
* `powerOfTwoFrom n`: the least power of two that is at least `n`.
-/

set_option autoImplicit false

namespace RenderBridge.Word

/-- The number of values of a 64-bit word. -/
def range : Nat := 0x10000000000000000

/-- Rounds `value` up to a multiple of `alignment`. Where the sum that does so leaves the 64-bit
range, the answer is the greatest multiple inside it. -/
def alignUp (value alignment : Nat) : Nat :=
  if value + (alignment - 1) < range then
    (value + (alignment - 1)) / alignment * alignment
  else
    (range - 1) / alignment * alignment

/-- The least power of two that is at least `n`; `1` for `0`. -/
def powerOfTwoFrom (n : Nat) : Nat :=
  if n ≤ 1 then 1 else Nat.pow 2 ((n - 1).log2 + 1)

/-- The least power of two from `n` on, or `n` itself where that power leaves the 64-bit range. -/
def grownCapacity (n : Nat) : Nat :=
  if powerOfTwoFrom n < range then powerOfTwoFrom n else n

end RenderBridge.Word
