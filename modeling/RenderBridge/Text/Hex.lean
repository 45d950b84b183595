/-!
Hexadecimal text of numbers, in lower case.
-/

set_option autoImplicit false

namespace RenderBridge.Hex

/-- The digits of `n`, at least `width` of them. -/
def digits (width n : Nat) : String :=
  let shown := Nat.toDigits 16 n
  String.ofList (List.replicate (width - shown.length) '0' ++ shown)

/-- As few digits as possible after `0x`. -/
def short (n : Nat) : String := "0x" ++ digits 1 n

/-- All sixteen digits of a 64-bit word after `0x`. -/
def word64 (n : UInt64) : String := "0x" ++ digits 16 n.toNat

end RenderBridge.Hex
