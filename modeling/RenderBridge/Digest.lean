import RenderBridge.Bytes
import RenderBridge.Number.Word
/-!
The XXH3 digest of 64 bits, for inputs of 17 to 128 bytes, with a seed.

Pairs of 16-byte blocks are taken from both ends towards the middle; each block is keyed by
16 bytes of a fixed secret, multiplied to 128 bits and folded.
-/

set_option autoImplicit false

namespace RenderBridge.Digest

/-- The first 128 bytes of the default secret. -/
def secret : List UInt8 := [
  0xb8, 0xfe, 0x6c, 0x39, 0x23, 0xa4, 0x4b, 0xbe, 0x7c, 0x01, 0x81, 0x2c, 0xf7, 0x21, 0xad, 0x1c,
  0xde, 0xd4, 0x6d, 0xe9, 0x83, 0x90, 0x97, 0xdb, 0x72, 0x40, 0xa4, 0xa4, 0xb7, 0xb3, 0x67, 0x1f,
  0xcb, 0x79, 0xe6, 0x4e, 0xcc, 0xc0, 0xe5, 0x78, 0x82, 0x5a, 0xd0, 0x7d, 0xcc, 0xff, 0x72, 0x21,
  0xb8, 0x08, 0x46, 0x74, 0xf7, 0x43, 0x24, 0x8e, 0xe0, 0x35, 0x90, 0xe6, 0x81, 0x3a, 0x26, 0x4c,
  0x3c, 0x28, 0x52, 0xbb, 0x91, 0xc3, 0x00, 0xcb, 0x88, 0xd0, 0x65, 0x8b, 0x1b, 0x53, 0x2e, 0xa3,
  0x71, 0x64, 0x48, 0x97, 0xa2, 0x0d, 0xf9, 0x4e, 0x38, 0x19, 0xef, 0x46, 0xa9, 0xde, 0xac, 0xd8,
  0xa8, 0xfa, 0x76, 0x3f, 0xe3, 0x9c, 0x34, 0x3f, 0xf9, 0xdc, 0xbb, 0xc7, 0xc7, 0x0b, 0x4f, 0x1d,
  0x8a, 0x51, 0xe0, 0x4b, 0xcd, 0xb4, 0x59, 0x31, 0xc8, 0x9f, 0x7e, 0xc9, 0xd9, 0x78, 0x73, 0x64]

/-- The little-endian word at byte `i`. -/
def word (bytes : List UInt8) (i : Nat) : UInt64 :=
  UInt64.ofNat (ofLittleEndian ((bytes.drop i).take 8))

/-- The product of two words with its halves combined. -/
def fold (a b : UInt64) : UInt64 :=
  let product := a.toNat * b.toNat
  UInt64.ofNat product ^^^ UInt64.ofNat (product / Word.range)

/-- The block at byte `i`, keyed by the secret at byte `s`. -/
def block (seed : UInt64) (data : List UInt8) (i s : Nat) : UInt64 :=
  fold (word data i ^^^ (word secret s + seed)) (word data (i + 8) ^^^ (word secret (s + 8) - seed))

/-- The numbers of the block pairs used for an input of this length. -/
def pairs (length : Nat) : List Nat :=
  (List.range 4).filter fun k => k = 0 ∨ 32 * k < length

/-- The last mixing of the bits. -/
def finish (acc : UInt64) : UInt64 :=
  let mixed := (acc ^^^ (acc >>> 37)) * 0x165667919E3779F9
  mixed ^^^ (mixed >>> 32)

/-- The digest of 17 to 128 bytes. -/
def xxh3 (seed : UInt64) (data : List UInt8) : UInt64 :=
  finish <| (pairs data.length).foldl
    (fun acc k =>
      acc + (block seed data (16 * k) (32 * k)
        + block seed data (data.length - 16 * (k + 1)) (32 * k + 16)))
    (UInt64.ofNat data.length * 0x9E3779B185EBCA87)

end RenderBridge.Digest
