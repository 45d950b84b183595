import Mathlib.Tactic
import RenderBridge.Bytes
/-!
Byte strings read position by position.

* `getElem?_slice`, `getElem?_overwrite`: what a range and a replaced range hold at a position.
* `overwrite_slice_overwrite`: **widening is invisible**: a replaced range may be sent together
  with its surroundings.
* `slice_overwrite_of_disjoint`, `slice_overwrite_of_subset`, `slice_overwrite_self`: a range read
  back beside, around and at a replaced one.
* `patched`, `seeded`: a replaced range and a string that starts with given bytes, said position
  by position; `overwrite_eq_patched` and `overwrite_zeros_eq_seeded` meet them.
* `HostRoom.lt_of_granted`: bytes that host memory has room for are fewer than `2 ^ 56`.
* `Beside`, `edged`: the bytes beside a range in its granules, and a string that takes them from
  another one; `beside_iff` finds them between two multiples of the granule.
-/

set_option autoImplicit false

namespace RenderBridge

/-! ### Room in host memory -/

/-- A request that is granted is for less than `2 ^ 56` bytes. -/
lemma HostRoom.lt_of_granted {n : ℕ} (h : HostRoom.of n = .granted) : n < 2 ^ 56 := by
  by_contra hlarge
  rw [HostRoom.of] at h
  split_ifs at h with htoo hmuch
  omega

/-- So is one that is granted from memory that may have run out. -/
lemma HostMemory.lt_of_granted {host : HostMemory} {n : ℕ} (h : host.room n = .granted) :
    n < 2 ^ 56 := by
  cases host with
  | ample => exact HostRoom.lt_of_granted h
  | exhausted =>
    rw [room] at h
    split_ifs at h

namespace Bytes

/-! ### Positions -/

lemma getElem?_slice (bytes : Bytes) (offset length i : ℕ) :
    (bytes.slice offset length)[i]? = if i < length then bytes[offset + i]? else none := by
  rw [slice, Array.getElem?_extract]
  by_cases hl : i < length
  · rw [if_pos hl]
    by_cases hs : offset + i < bytes.size
    · rw [if_pos (by omega)]
    · rw [if_neg (by omega), Array.getElem?_eq_none (by omega)]
  · rw [if_neg hl, if_neg (by omega)]

lemma getElem?_overwrite {bytes part : Bytes} {offset : ℕ}
    (h : offset + part.size ≤ bytes.size) (i : ℕ) :
    (bytes.overwrite offset part)[i]? =
      if offset ≤ i ∧ i < offset + part.size then part[i - offset]? else bytes[i]? := by
  have hmin : min offset bytes.size = offset := by omega
  rw [overwrite, Array.getElem?_append, Array.getElem?_append, Array.getElem?_extract,
    Array.getElem?_extract, Array.size_append, Array.size_extract, hmin, Nat.sub_zero]
  by_cases hlow : i < offset
  · rw [if_pos (by omega), if_pos hlow, if_pos (by omega), if_neg (by omega), Nat.zero_add]
  · by_cases hhigh : i < offset + part.size
    · rw [if_pos hhigh, if_neg hlow, if_pos ⟨by omega, hhigh⟩]
    · rw [if_neg hhigh, if_neg (show ¬ (offset ≤ i ∧ _) from fun h => hhigh h.2), Nat.min_self]
      by_cases hend : i < bytes.size
      · rw [if_pos (by omega), show offset + part.size + (i - (offset + part.size)) = i by omega]
      · rw [if_neg (by omega), Array.getElem?_eq_none (by omega)]

lemma getElem?_zeros (n i : ℕ) : (zeros n)[i]? = if i < n then some 0 else none := by
  rw [zeros, Array.getElem?_replicate]

/-! ### Ranges beside each other -/

variable {bytes part : Bytes} {offset : ℕ}

/-- The bytes around a replaced range may be sent along with it. -/
lemma overwrite_slice_overwrite {start stop : ℕ} (hstart : start ≤ offset)
    (hpart : offset + part.size ≤ stop) (hstop : stop ≤ bytes.size) :
    bytes.overwrite start ((bytes.overwrite offset part).slice start (stop - start)) =
      bytes.overwrite offset part := by
  have hin : offset + part.size ≤ bytes.size := by omega
  have hsize : (bytes.overwrite offset part).size = bytes.size := size_overwrite hin
  have hlen : ((bytes.overwrite offset part).slice start (stop - start)).size = stop - start :=
    size_slice (by omega)
  apply Array.ext_getElem?
  intro i
  rw [getElem?_overwrite (by omega), hlen]
  by_cases hi : start ≤ i ∧ i < start + (stop - start)
  · rw [if_pos hi, getElem?_slice, if_pos (by omega), show start + (i - start) = i by omega]
  · rw [if_neg hi, getElem?_overwrite hin, if_neg (by omega)]

lemma slice_overwrite_self (h : offset + part.size ≤ bytes.size) :
    (bytes.overwrite offset part).slice offset part.size = part := by
  apply Array.ext_getElem?
  intro i
  rw [getElem?_slice]
  by_cases hi : i < part.size
  · rw [if_pos hi, getElem?_overwrite h, if_pos (by omega), show offset + i - offset = i by omega]
  · rw [if_neg hi, Array.getElem?_eq_none (by omega)]

lemma slice_overwrite_of_disjoint {start length : ℕ} (h : offset + part.size ≤ bytes.size)
    (apart : start + length ≤ offset ∨ offset + part.size ≤ start) :
    (bytes.overwrite offset part).slice start length = bytes.slice start length := by
  apply Array.ext_getElem?
  intro i
  rw [getElem?_slice, getElem?_slice]
  by_cases hi : i < length
  · rw [if_pos hi, if_pos hi, getElem?_overwrite h, if_neg (by omega)]
  · rw [if_neg hi, if_neg hi]

lemma slice_overwrite_of_subset {start length : ℕ} (hstart : start ≤ offset)
    (hpart : offset + part.size ≤ start + length) (hlen : start + length ≤ bytes.size) :
    (bytes.overwrite offset part).slice start length =
      (bytes.slice start length).overwrite (offset - start) part := by
  have hsize : (bytes.slice start length).size = length := size_slice hlen
  apply Array.ext_getElem?
  intro i
  rw [getElem?_slice, getElem?_overwrite (by omega)]
  by_cases hi : i < length
  · rw [if_pos hi, getElem?_overwrite (by omega), getElem?_slice, if_pos hi]
    by_cases hin : offset ≤ start + i ∧ start + i < offset + part.size
    · rw [if_pos hin, if_pos (by omega), show start + i - offset = i - (offset - start) by omega]
    · rw [if_neg hin, if_neg (by omega)]
  · rw [if_neg hi, getElem?_overwrite (by omega), if_neg (by omega), getElem?_slice, if_neg hi]

/-! ### Replaced ranges, position by position -/

/-- The bytes from `offset` on replaced by the first `length` bytes of `data`. -/
def patched (bytes : Bytes) (offset length : ℕ) (data : Bytes) : Bytes :=
  Array.ofFn fun i : Fin bytes.size =>
    if offset ≤ i ∧ i < offset + length then data.getD (i - offset) 0 else bytes[i]

/-- `size` bytes that start with `data` and are zero behind it. -/
def seeded (size : ℕ) (data : Bytes) : Bytes := Array.ofFn fun i : Fin size => data.getD i 0

@[simp]
lemma size_patched (bytes : Bytes) (offset length : ℕ) (data : Bytes) :
    (bytes.patched offset length data).size = bytes.size := Array.size_ofFn

lemma getElem?_patched (bytes : Bytes) (offset length : ℕ) (data : Bytes) (i : ℕ) :
    (bytes.patched offset length data)[i]? =
      if offset ≤ i ∧ i < offset + length ∧ i < bytes.size then some (data.getD (i - offset) 0)
      else bytes[i]? := by
  rw [patched, Array.getElem?_ofFn]
  by_cases hi : i < bytes.size
  · rw [dif_pos hi, Array.getElem?_eq_getElem hi]
    by_cases hin : offset ≤ i ∧ i < offset + length
    · rw [if_pos hin, if_pos ⟨hin.1, hin.2, hi⟩]
    · rw [if_neg hin, if_neg fun h => hin ⟨h.1, h.2.1⟩]
      rfl
  · rw [dif_neg hi, if_neg (by omega), Array.getElem?_eq_none (by omega)]

lemma overwrite_eq_patched {data : Bytes} {length : ℕ} (hdata : length ≤ data.size)
    (h : offset + length ≤ bytes.size) :
    bytes.overwrite offset (data.slice 0 length) = bytes.patched offset length data := by
  have hlen : (data.slice 0 length).size = length := size_slice (by omega)
  apply Array.ext_getElem?
  intro i
  rw [getElem?_overwrite (by omega), hlen, getElem?_patched]
  by_cases hin : offset ≤ i ∧ i < offset + length
  · rw [if_pos hin, if_pos (by omega), getElem?_slice, if_pos (by omega), Nat.zero_add,
      Array.getElem?_eq_getElem (by omega), Array.getD, dif_pos (by omega)]
    rfl
  · rw [if_neg hin, if_neg (by omega)]

lemma overwrite_zeros_eq_seeded {data : Bytes} {size : ℕ} (h : data.size ≤ size) :
    (zeros size).overwrite 0 data = seeded size data := by
  apply Array.ext_getElem?
  intro i
  rw [getElem?_overwrite (by rw [size_zeros]; omega), getElem?_zeros, seeded, Array.getElem?_ofFn]
  by_cases hin : i < data.size
  · rw [if_pos (by omega), dif_pos (by omega), Nat.sub_zero, Array.getElem?_eq_getElem hin,
      Array.getD, dif_pos hin]
    rfl
  · rw [if_neg (by omega)]
    by_cases hi : i < size
    · rw [if_pos hi, dif_pos hi, Array.getD, dif_neg hin]
    · rw [if_neg hi, dif_neg hi]

lemma slice_zeros {size start length : ℕ} (h : start + length ≤ size) :
    (zeros size).slice start length = zeros length := by
  apply Array.ext_getElem?
  intro i
  rw [getElem?_slice, getElem?_zeros, getElem?_zeros]
  by_cases hi : i < length
  · rw [if_pos hi, if_pos hi, if_pos (by omega)]
  · rw [if_neg hi, if_neg hi]

/-! ### Granules -/

/-- A position beside a range, in a granule that the range meets. -/
def Beside (granule offset length i : ℕ) : Prop :=
  ¬ (offset ≤ i ∧ i < offset + length) ∧ ∃ j < length, (offset + j) / granule = i / granule

instance (granule offset length i : ℕ) : Decidable (Beside granule offset length i) :=
  inferInstanceAs (Decidable (_ ∧ _))

/-- The bytes beside a range, in the granules that it meets, taken from another string. -/
def edged (bytes source : Bytes) (granule offset length : ℕ) : Bytes :=
  Array.ofFn fun i : Fin bytes.size =>
    if Beside granule offset length i then source.getD i 0 else bytes[i]

@[simp]
lemma size_edged (bytes source : Bytes) (granule offset length : ℕ) :
    (bytes.edged source granule offset length).size = bytes.size := Array.size_ofFn

/-- The granules that a range meets lie between the multiples around it. -/
lemma beside_iff {granule offset length i : ℕ} (hg : 0 < granule) (hlength : 0 < length) :
    Beside granule offset length i ↔ ¬ (offset ≤ i ∧ i < offset + length) ∧
      offset / granule * granule ≤ i ∧
        i < (offset + length + (granule - 1)) / granule * granule := by
  have hup : (offset + length + (granule - 1)) / granule = (offset + length - 1) / granule + 1 := by
    rw [show offset + length + (granule - 1) = offset + length - 1 + granule by omega,
      Nat.add_div_right _ hg]
  have hlow : offset / granule * granule ≤ i ↔ offset / granule ≤ i / granule :=
    (Nat.le_div_iff_mul_le hg).symm
  have hhigh : i < ((offset + length - 1) / granule + 1) * granule ↔
      i / granule ≤ (offset + length - 1) / granule := by
    rw [← Nat.div_lt_iff_lt_mul hg, Nat.lt_succ_iff]
  rw [Beside, hup, hlow, hhigh]
  refine and_congr_right fun _ => ⟨?_, ?_⟩
  · rintro ⟨j, hj, heq⟩
    rw [← heq]
    exact ⟨Nat.div_le_div_right (Nat.le_add_right _ _), Nat.div_le_div_right (by omega)⟩
  · rintro ⟨hfrom, hto⟩
    -- The range meets the granule at its own start, or at the start of the granule.
    have hle := Nat.div_mul_le_self (offset + length - 1) granule
    have hto' := Nat.mul_le_mul_right granule hto
    rcases Nat.le_total (i / granule * granule) offset with hstart | hstart
    · refine ⟨0, hlength, le_antisymm hfrom ?_⟩
      exact (Nat.le_div_iff_mul_le hg).mpr hstart
    · refine ⟨i / granule * granule - offset, by omega, ?_⟩
      rw [Nat.add_sub_cancel' hstart, Nat.mul_div_cancel _ hg]

lemma getElem?_edged (bytes source : Bytes) (granule offset length i : ℕ) :
    (bytes.edged source granule offset length)[i]? =
      if Beside granule offset length i ∧ i < bytes.size then some (source.getD i 0)
      else bytes[i]? := by
  rw [edged, Array.getElem?_ofFn]
  by_cases hi : i < bytes.size
  · rw [dif_pos hi, Array.getElem?_eq_getElem hi]
    by_cases hbeside : Beside granule offset length i
    · rw [if_pos hbeside, if_pos ⟨hbeside, hi⟩]
    · rw [if_neg hbeside, if_neg fun h => hbeside h.1]
      rfl
  · rw [dif_neg hi, if_neg fun h => hi h.2, Array.getElem?_eq_none (by omega)]

/-- From a string of the same length the bytes are taken as they are. -/
lemma getElem?_edged_of_size_eq {source : Bytes} (hsize : source.size = bytes.size)
    (granule offset length i : ℕ) :
    (bytes.edged source granule offset length)[i]? =
      if Beside granule offset length i then source[i]? else bytes[i]? := by
  rw [getElem?_edged]
  by_cases hi : i < bytes.size
  · have hsource : some (source.getD i 0) = source[i]? := by
      rw [Array.getElem?_eq_getElem (by omega), Array.getD, dif_pos (by omega)]
      rfl
    rw [hsource]
    simp only [hi, and_true]
  · rw [if_neg fun h => hi h.2, Array.getElem?_eq_none (by omega),
      Array.getElem?_eq_none (by omega), ite_self]

lemma edged_of_not_beside {granule offset length : ℕ}
    (h : ∀ i, ¬ Beside granule offset length i) (bytes source : Bytes) :
    bytes.edged source granule offset length = bytes := by
  apply Array.ext_getElem?
  intro i
  rw [getElem?_edged, if_neg fun hi => h i hi.1]

/-- In granules of one byte there is nothing beside a range. -/
lemma not_beside_one (offset length i : ℕ) : ¬ Beside 1 offset length i := by
  rintro ⟨hout, j, hj, heq⟩
  rw [Nat.div_one, Nat.div_one] at heq
  omega

/-- There is nothing beside an empty range. -/
lemma not_beside_empty (granule offset i : ℕ) : ¬ Beside granule offset 0 i := by
  rintro ⟨-, j, hj, -⟩
  exact absurd hj (Nat.not_lt_zero j)

/-- Part of a string that starts at a granule has its edges from the same part of the other. -/
lemma slice_edged {source : Bytes} {granule start length n : ℕ} (hg : 0 < granule)
    (hdvd : granule ∣ start) (hsize : source.size = bytes.size) (hin : start + n ≤ bytes.size) :
    (bytes.edged source granule (start + offset) length).slice start n =
      (bytes.slice start n).edged (source.slice start n) granule offset length := by
  have hsizes : (source.slice start n).size = (bytes.slice start n).size := by
    rw [size_slice hin, size_slice (by omega)]
  obtain ⟨q, rfl⟩ := hdvd
  have hdiv : ∀ x, (granule * q + x) / granule = q + x / granule := fun x =>
    Nat.mul_add_div hg q x
  have hbeside : ∀ i, Beside granule (granule * q + offset) length (granule * q + i) ↔
      Beside granule offset length i := by
    intro i
    refine and_congr (not_congr (by omega)) (exists_congr fun j => and_congr_right fun _ => ?_)
    rw [Nat.add_assoc, hdiv, hdiv, Nat.add_left_cancel_iff]
  apply Array.ext_getElem?
  intro i
  rw [getElem?_slice, getElem?_edged_of_size_eq hsizes, getElem?_slice, getElem?_slice,
    getElem?_edged_of_size_eq hsize]
  simp only [hbeside]
  by_cases hi : i < n
  · rw [if_pos hi, if_pos hi, if_pos hi]
  · rw [if_neg hi, if_neg hi, if_neg hi, ite_self]

/-- A part that starts and ends at granules has no edges of a range before it or behind it. -/
lemma slice_edged_of_apart {source : Bytes} {granule start stop length n : ℕ} (hg : 0 < granule)
    (hstart : granule ∣ start) (hstop : granule ∣ stop) (hn : start + n ≤ stop)
    (hapart : offset + length ≤ start ∨ stop ≤ offset) (hsize : source.size = bytes.size) :
    (bytes.edged source granule offset length).slice start n = bytes.slice start n := by
  have hcross : ∀ x y k, x < granule * k → granule * k ≤ y → x / granule ≠ y / granule := by
    intro x y k hx hy
    have hlt : x / granule < k := (Nat.div_lt_iff_lt_mul hg).mpr (by rwa [Nat.mul_comm])
    have hle : k ≤ y / granule := (Nat.le_div_iff_mul_le hg).mpr (by rwa [Nat.mul_comm])
    exact Nat.ne_of_lt (hlt.trans_le hle)
  apply Array.ext_getElem?
  intro i
  rw [getElem?_slice, getElem?_slice, getElem?_edged_of_size_eq hsize]
  by_cases hi : i < n
  · rw [if_pos hi, if_pos hi, if_neg]
    rintro ⟨-, j, hj, heq⟩
    obtain ⟨a, rfl⟩ := hstart
    obtain ⟨b, rfl⟩ := hstop
    rcases hapart with hbefore | hbehind
    · exact hcross (offset + j) (granule * a + i) a (by omega) (by omega) heq
    · exact hcross (granule * a + i) (offset + j) b (by omega) (by omega) heq.symm
  · rw [if_neg hi, if_neg hi]

end Bytes

end RenderBridge
