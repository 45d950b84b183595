/-!
Byte strings: ranges of them, replacing a range, and little-endian numbers.

* `Bytes.slice`, `Bytes.overwrite`: the bytes of a range, and a range replaced by other bytes.
* `HostRoom.of`, `HostMemory.room`: whether host memory has room for a byte string.
* `littleEndian width n`, `ofLittleEndian`: a number as bytes, least significant first, and back.
* `size_overwrite`, `size_slice`: what happens to lengths, for ranges inside the string.
* `ofLittleEndian_littleEndian`: a number that fits reads back.
-/

set_option autoImplicit false

namespace RenderBridge

abbrev Bytes := Array UInt8

namespace Bytes

def zeros (n : Nat) : Bytes := Array.replicate n 0

/-- The `length` bytes from `offset` on, fewer where the string ends before. -/
def slice (bytes : Bytes) (offset length : Nat) : Bytes := bytes.extract offset (offset + length)

/-- The bytes from `offset` on replaced by `part`; the length stays where the range lies inside. -/
def overwrite (bytes : Bytes) (offset : Nat) (part : Bytes) : Bytes :=
  bytes.extract 0 offset ++ part ++ bytes.extract (offset + part.size) bytes.size

@[simp]
theorem size_zeros (n : Nat) : (zeros n).size = n := Array.size_replicate

theorem size_slice {bytes : Bytes} {offset length : Nat} (h : offset + length ≤ bytes.size) :
    (bytes.slice offset length).size = length := by
  simp only [slice, Array.size_extract]
  omega

theorem size_overwrite {bytes part : Bytes} {offset : Nat} (h : offset + part.size ≤ bytes.size) :
    (bytes.overwrite offset part).size = bytes.size := by
  simp only [overwrite, Array.size_append, Array.size_extract]
  omega

end Bytes

/-! ### Room in host memory -/

/-- How host memory answers a request for bytes. -/
inductive HostRoom
  | granted
  /-- Longer than any object can be. -/
  | tooLong
  | exhausted
deriving DecidableEq

/-- The answer to a request for `n` bytes. No object has `2 ^ 63` bytes or more, and from `2 ^ 56`
on no host has the memory. -/
def HostRoom.of (n : Nat) : HostRoom :=
  if 0x8000000000000000 ≤ n then .tooLong
  else if 0x100000000000000 ≤ n then .exhausted
  else .granted

/-- What host memory has left, for requests that are made beside those of a device. -/
inductive HostMemory
  /-- Whatever a host can give. -/
  | ample
  /-- Nothing. -/
  | exhausted
deriving DecidableEq

/-- The answer to a request for `n` bytes, from memory that may have run out. -/
def HostMemory.room : HostMemory → Nat → HostRoom
  | ample, n => .of n
  | exhausted, n => if 0x8000000000000000 ≤ n then .tooLong else .exhausted

/-! ### Little-endian numbers -/

/-- The `width` low bytes of `n`, least significant first. -/
def littleEndian : Nat → Nat → List UInt8
  | 0, _ => []
  | width + 1, n => UInt8.ofNat (n % 256) :: littleEndian width (n / 256)

/-- The number whose bytes these are, least significant first. -/
def ofLittleEndian : List UInt8 → Nat
  | [] => 0
  | b :: rest => b.toNat + 256 * ofLittleEndian rest

@[simp]
theorem length_littleEndian (width n : Nat) : (littleEndian width n).length = width := by
  induction width generalizing n with
  | zero => rfl
  | succ width ih => simp [littleEndian, ih]

/-- A number that fits into the width reads back. -/
theorem ofLittleEndian_littleEndian {width n : Nat} (h : n < Nat.pow 256 width) :
    ofLittleEndian (littleEndian width n) = n := by
  induction width generalizing n with
  | zero =>
    have : n = 0 := Nat.lt_one_iff.mp h
    simp [littleEndian, ofLittleEndian, this]
  | succ width ih =>
    have small : n / 256 < Nat.pow 256 width := Nat.div_lt_of_lt_mul (by
      rw [Nat.mul_comm]
      exact h)
    rw [littleEndian, ofLittleEndian, ih small]
    have : (UInt8.ofNat (n % 256)).toNat = n % 256 :=
      Nat.mod_eq_of_lt (Nat.mod_lt n (by decide))
    omega

end RenderBridge
