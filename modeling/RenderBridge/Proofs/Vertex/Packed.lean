import Mathlib.Tactic
import RenderBridge.Proofs.Bytes
import RenderBridge.Vertex.Packed
/-!
The words of a packed description, read off the bytes by place value.

* `Bytes.signedWord`: four bytes as a signed number; `toInt_decodeWord` finds the word that is
  decoded there.
* `AttributeWords`, `Bytes.attributes`: the seven numbers of each group of bytes;
  `map_numbers_unpackAttributes` finds the attributes that are unpacked.
* `unpackAttributes_packAttributes`: **unpacking undoes packing**.
-/

set_option autoImplicit false

namespace RenderBridge

/-! ### Words by place value -/

/-- The four bytes from `offset` on as a signed number, least significant byte first. -/
def Bytes.signedWord (bytes : Bytes) (offset : ℕ) : ℤ :=
  Int.bmod
    ((bytes.getD offset 0).toNat + 2 ^ 8 * (bytes.getD (offset + 1) 0).toNat +
      2 ^ 16 * (bytes.getD (offset + 2) 0).toNat + 2 ^ 24 * (bytes.getD (offset + 3) 0).toNat)
    (2 ^ 32)

/-- Four bytes that lie inside, one by one. -/
lemma Bytes.toList_slice_four {bytes : Bytes} {offset : ℕ} (h : offset + 4 ≤ bytes.size) :
    (bytes.slice offset 4).toList = [bytes.getD offset 0, bytes.getD (offset + 1) 0,
      bytes.getD (offset + 2) 0, bytes.getD (offset + 3) 0] := by
  have hget : ∀ k < 4, bytes[offset + k]? = some (bytes.getD (offset + k) 0) := by
    intro k hk
    rw [Array.getElem?_eq_getElem (by omega), Array.getD, dif_pos (by omega)]
    rfl
  apply List.ext_getElem?
  intro k
  rw [Array.getElem?_toList, getElem?_slice]
  by_cases hk : k < 4
  · rw [if_pos hk, hget k hk]
    interval_cases k <;> rfl
  · rw [if_neg hk, List.getElem?_eq_none (by simpa using hk)]

/-- The word that is decoded is the one that the place values say. -/
lemma PackedAttribute.toInt_decodeWord {bytes : Bytes} {offset : ℕ} (h : offset + 4 ≤ bytes.size) :
    (PackedAttribute.decodeWord bytes offset).toInt = bytes.signedWord offset := by
  have toInt_ofNat : ∀ n : ℕ, (UInt32.ofNat n).toInt32.toInt = (n : ℤ).bmod (2 ^ 32) := by
    intro n
    rw [UInt32.toInt32_ofNat', Int32.toInt_ofNat']
    rfl
  have hvalue : ∀ b₀ b₁ b₂ b₃ : UInt8, (ofLittleEndian [b₀, b₁, b₂, b₃] : ℤ) =
      b₀.toNat + 2 ^ 8 * b₁.toNat + 2 ^ 16 * b₂.toNat + 2 ^ 24 * b₃.toNat := by
    intro b₀ b₁ b₂ b₃
    simp only [ofLittleEndian]
    push_cast
    ring
  have hword := toInt_ofNat (ofLittleEndian (bytes.slice offset 4).toList)
  rw [Bytes.toList_slice_four h, hvalue] at hword
  rw [PackedAttribute.decodeWord, Bytes.toList_slice_four h]
  exact hword

/-! ### Groups of seven words -/

/-- The numbers of one attribute in the order in which they are sent. -/
@[ext]
structure AttributeWords where
  index : ℤ
  usage : ℤ
  type : ℤ
  count : ℤ
  offset : ℤ
  normalized : ℤ
  uv : ℤ

def PackedAttribute.numbers (a : PackedAttribute) : AttributeWords where
  index := a.index.toInt
  usage := a.usage.toInt
  type := a.componentType.toInt
  count := a.componentCount.toInt
  offset := a.offset.toInt
  normalized := a.normalized.toInt
  uv := a.uvIndex.toInt

/-- The numbers in the 28 bytes from `offset` on. -/
def Bytes.attribute (bytes : Bytes) (offset : ℕ) : AttributeWords where
  index := bytes.signedWord offset
  usage := bytes.signedWord (offset + 4)
  type := bytes.signedWord (offset + 8)
  count := bytes.signedWord (offset + 12)
  offset := bytes.signedWord (offset + 16)
  normalized := bytes.signedWord (offset + 20)
  uv := bytes.signedWord (offset + 24)

/-- The numbers in the first `count` groups of 28 bytes. -/
def Bytes.attributes (bytes : Bytes) (count : ℕ) : List AttributeWords :=
  (List.range count).map fun i => bytes.attribute (28 * i)

lemma PackedAttribute.numbers_decode {bytes : Bytes} {offset : ℕ} (h : offset + 28 ≤ bytes.size) :
    (decode bytes offset).numbers = bytes.attribute offset := by
  simp only [decode, numbers, Bytes.attribute]
  rw [toInt_decodeWord (by omega), toInt_decodeWord (by omega), toInt_decodeWord (by omega),
    toInt_decodeWord (by omega), toInt_decodeWord (by omega), toInt_decodeWord (by omega),
    toInt_decodeWord (by omega)]

lemma map_numbers_unpackAttributes {bytes : Bytes} {count : ℕ} (h : bytes.size = 28 * count) :
    (unpackAttributes count bytes).map PackedAttribute.numbers = bytes.attributes count := by
  rw [unpackAttributes, Bytes.attributes, List.map_map]
  refine List.map_congr_left fun i hi => ?_
  have hi := List.mem_range.mp hi
  have hsize : i * PackedAttribute.size = 28 * i := Nat.mul_comm i 28
  rw [Function.comp_apply, hsize]
  exact PackedAttribute.numbers_decode (by omega)

/-! ### Packing and unpacking -/

namespace PackedAttribute

@[simp]
lemma length_encodeWord (w : Int32) : (encodeWord w).length = 4 := length_littleEndian 4 _

@[simp]
lemma length_encode (a : PackedAttribute) : (encode a).length = 28 := by
  simp [encode]

/-- Only the four bytes from `offset` on count. -/
lemma decodeWord_toArray (bytes : List UInt8) (offset : ℕ) :
    decodeWord bytes.toArray offset =
      (UInt32.ofNat (ofLittleEndian ((bytes.drop offset).take 4))).toInt32 := by
  rw [decodeWord, Bytes.slice, Array.toList_extract, List.extract_eq_take_drop,
    Nat.add_sub_cancel_left]

lemma decodeWord_encodeWord (w : Int32) (after : List UInt8) :
    decodeWord (encodeWord w ++ after).toArray 0 = w := by
  rw [decodeWord_toArray, List.drop_zero, List.take_left' (length_encodeWord w), encodeWord,
    ofLittleEndian_littleEndian (UInt32.toNat_lt _), UInt32.ofNat_toNat, Int32.toInt32_toUInt32]

lemma decodeWord_append {before : List UInt8} {length : ℕ} (h : before.length = length)
    (after : List UInt8) (offset : ℕ) :
    decodeWord (before ++ after).toArray (length + offset) = decodeWord after.toArray offset := by
  rw [decodeWord_toArray, decodeWord_toArray, List.drop_append, List.drop_of_length_le (by omega),
    List.nil_append, h, Nat.add_sub_cancel_left]

lemma decode_append (a : PackedAttribute) (after : List UInt8) (offset : ℕ) :
    decode (encode a ++ after).toArray (28 + offset) = decode after.toArray offset := by
  simp only [decode, Nat.add_assoc, decodeWord_append (length_encode a)]

lemma decode_encode (a : PackedAttribute) (after : List UInt8) :
    decode (encode a ++ after).toArray 0 = a := by
  have skip : ∀ (w : Int32) (rest : List UInt8) (offset : ℕ),
      decodeWord (encodeWord w ++ rest).toArray (offset + 4) = decodeWord rest.toArray offset := by
    intro w rest offset
    rw [Nat.add_comm, decodeWord_append (length_encodeWord w)]
  simp [decode, encode, List.append_assoc, skip, decodeWord_encodeWord]

end PackedAttribute

lemma size_packAttributes (ws : List PackedAttribute) :
    (packAttributes ws).size = 28 * ws.length := by
  induction ws with
  | nil => rfl
  | cons a ws ih =>
    rw [packAttributes, List.size_toArray] at ih ⊢
    rw [List.flatMap_cons, List.length_append, PackedAttribute.length_encode, ih, List.length_cons]
    omega

/-- Unpacking gives back what was packed. -/
lemma unpackAttributes_packAttributes (ws : List PackedAttribute) :
    unpackAttributes ws.length (packAttributes ws) = ws := by
  induction ws with
  | nil => rfl
  | cons a ws ih =>
    have behind : ∀ i, PackedAttribute.decode (packAttributes (a :: ws))
        ((i + 1) * PackedAttribute.size) =
          PackedAttribute.decode (packAttributes ws) (i * PackedAttribute.size) := by
      intro i
      have hsize : (i + 1) * PackedAttribute.size = 28 + i * PackedAttribute.size := by
        rw [Nat.succ_mul, Nat.add_comm]
        rfl
      rw [packAttributes, List.flatMap_cons, hsize, PackedAttribute.decode_append, packAttributes]
    rw [unpackAttributes, List.length_cons, List.range_succ_eq_map, List.map_cons, List.map_map,
      Nat.zero_mul]
    refine congrArg₂ List.cons (PackedAttribute.decode_encode a _) ?_
    calc _ = (List.range ws.length).map fun i =>
          PackedAttribute.decode (packAttributes ws) (i * PackedAttribute.size) :=
        List.map_congr_left fun i _ => behind i
      _ = ws := ih

end RenderBridge
