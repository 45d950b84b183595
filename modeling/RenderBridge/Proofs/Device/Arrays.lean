import RenderBridge.Proofs.Device.Heap
import RenderBridge.Proofs.Number.Checked
/-!
The memory of a device in host memory as a family of byte arrays that have nothing in common.

* `Arrays`: sizes, bytes and the number of copies, as functions of buffer and position.
* `Arrays.InReach`: the ranges that a call may name.
* `Arrays.write`, `copy`, `allocate`, `release`, `read`: what each call does, byte by byte.
* `MemoryDevice.Holds.perform`: every call to the device takes the step of the arrays.
* `memory_arrays`: **after any calls the device shows the arrays**, and the next call does all that
  it says or nothing.
-/

set_option autoImplicit false

namespace RenderBridge

/-! ### Arrays -/

/-- Byte arrays under numbers. Those that were not made, or are gone, have no bytes. -/
structure Arrays where
  made : ℕ := 0
  size : BufferId → ℕ := fun _ => 0
  /-- Read at positions below the size only. -/
  byte : BufferId → ℕ → UInt8 := fun _ _ => 0
  copies : ℕ := 0

namespace Arrays

/-- A range inside an array, of whole granules where the alignment asks for more than one byte. -/
def InReach (alignment : ℕ) (a : Arrays) (id : BufferId) (offset length : ℕ) : Prop :=
  offset + length ≤ a.size id ∧ (1 < alignment → alignment ∣ offset ∧ alignment ∣ length)

instance (alignment : ℕ) (a : Arrays) (id : BufferId) (offset length : ℕ) :
    Decidable (a.InReach alignment id offset length) := inferInstanceAs (Decidable (_ ∧ (_ → _)))

/-- A new array of zeros. -/
def allocate (size : ℕ) (a : Arrays) : Arrays where
  made := a.made + 1
  size j := if j = a.made + 1 then size else a.size j
  byte j i := if j = a.made + 1 then 0 else a.byte j i
  copies := a.copies

/-- The array is gone. -/
def release (id : BufferId) (a : Arrays) : Arrays :=
  { a with size := fun j => if j = id then 0 else a.size j }

/-- The bytes of a range are the given ones, all others what they were. -/
def write (id : BufferId) (offset : ℕ) (bytes : Bytes) (a : Arrays) : Arrays :=
  { a with
    byte := fun j i =>
      if j = id ∧ offset ≤ i ∧ i < offset + bytes.size then bytes.getD (i - offset) 0
      else a.byte j i }

/-- The bytes of a range are those that another range had, all others what they were. -/
def copy (source : BufferId) (sourceOffset : ℕ) (target : BufferId) (targetOffset length : ℕ)
    (a : Arrays) : Arrays :=
  { a with
    byte := fun j i =>
      if j = target ∧ targetOffset ≤ i ∧ i < targetOffset + length then
        a.byte source (sourceOffset + (i - targetOffset))
      else a.byte j i
    copies := a.copies + 1 }

/-- The bytes of a range inside an array. -/
def read (id : BufferId) (offset length : ℕ) (a : Arrays) : Option Bytes :=
  if offset + length ≤ a.size id then
    some (Array.ofFn fun i : Fin length => a.byte id (offset + i))
  else none

/-- The arrays after a call. A call that is out of reach does nothing. -/
def step {P D : Type} (alignment : ℕ) (request : Request P D) (a : Arrays) : Arrays :=
  match request with
  | .createBuffer size _ => if HostRoom.of size = .granted then a.allocate size else a
  | .releaseBuffer id => a.release id
  | .writeBuffer id offset bytes =>
    if a.InReach alignment id offset bytes.size then a.write id offset bytes else a
  | .copyBuffer source sourceOffset target targetOffset length =>
    if a.InReach alignment source sourceOffset length ∧
        a.InReach alignment target targetOffset length then
      a.copy source sourceOffset target targetOffset length
    else a
  | _ => a

/-- The arrays after calls. -/
def run {P D : Type} (alignment : ℕ) (requests : List (Request P D)) (a : Arrays) : Arrays :=
  requests.foldl (fun a request => a.step alignment request) a

end Arrays

/-! ### The device -/

namespace MemoryDevice

/-- The device after calls, whatever they answer. -/
def performs (requests : List HostRequest) (d : MemoryDevice) : MemoryDevice :=
  requests.foldl (fun d request => (request.perform d).2) d

/-- The device holds the arrays. -/
structure Holds (d : MemoryDevice) (alignment : ℕ) (a : Arrays) : Prop where
  alignment_eq : d.alignment = alignment
  made_eq : d.created = a.made
  copies_eq : d.copies = a.copies
  size_eq : ∀ id, (d.contents id).size = a.size id
  byte_eq : ∀ id i, i < a.size id → (d.contents id)[i]? = some (a.byte id i)

/-- What can be seen of the memory is what the arrays say. -/
structure Shows (d : MemoryDevice) (a : Arrays) : Prop where
  copies_eq : d.copies = a.copies
  reads : ∀ id offset length, d.readBuffer id offset length = a.read id offset length

namespace Holds

variable {d d' : MemoryDevice} {alignment : ℕ} {a : Arrays}

lemma shows (h : d.Holds alignment a) : d.Shows a where
  copies_eq := h.copies_eq
  reads id offset length := by
    rw [readBuffer, checkRange, Arrays.read, h.size_eq]
    by_cases hin : offset + length ≤ a.size id
    · rw [if_pos hin, if_pos hin]
      refine congrArg some (Array.ext_getElem? fun i => ?_)
      rw [Bytes.getElem?_slice, Array.getElem?_ofFn]
      by_cases hi : i < length
      · rw [if_pos hi, dif_pos hi, h.byte_eq id (offset + i) (by omega)]
      · rw [if_neg hi, dif_neg hi]
    · rw [if_neg hin, if_neg hin]

/-- What the heap lets through is what is in reach. -/
lemma fits_iff (h : d.Holds alignment a) (id : BufferId) (offset length : ℕ) :
    d.heap.Fits id offset length ↔ a.InReach alignment id offset length := by
  have hsize : (d.heap.contents id).size = a.size id := h.size_eq id
  have hgranule : d.heap.granule = max alignment 1 := by rw [← h.alignment_eq]; rfl
  constructor
  · rintro ⟨hoffset, hlength, hin⟩
    rw [hgranule] at hoffset hlength
    rw [hsize] at hin
    refine ⟨hin, fun halignment => ?_⟩
    rw [max_eq_left halignment.le] at hoffset hlength
    exact ⟨hoffset, hlength⟩
  · rintro ⟨hin, hwhole⟩
    rw [← hsize] at hin
    by_cases halignment : 1 < alignment
    · obtain ⟨hoffset, hlength⟩ := hwhole halignment
      rw [← max_eq_left halignment.le, ← hgranule] at hoffset hlength
      exact ⟨hoffset, hlength, hin⟩
    · have hone : d.heap.granule = 1 := by rw [hgranule]; omega
      exact ⟨hone ▸ one_dvd _, hone ▸ one_dvd _, hin⟩

/-- A range of one buffer replaced, and the copies counted anew. -/
lemma overwrite (h : d.Holds alignment a) {id : BufferId} {offset : ℕ} {bytes : Bytes}
    (hin : offset + bytes.size ≤ a.size id) {b : Arrays} (hmade : b.made = a.made)
    (hsize : b.size = a.size)
    (hbyte : ∀ j i, i < a.size j → some (b.byte j i) =
      if j = id ∧ offset ≤ i ∧ i < offset + bytes.size then bytes[i - offset]?
      else some (a.byte j i)) :
    Holds { d with
      buffers := d.buffers.insert id ((d.contents id).overwrite offset bytes)
      copies := b.copies } alignment b where
  alignment_eq := h.alignment_eq
  made_eq := h.made_eq.trans hmade.symm
  copies_eq := rfl
  size_eq j := by
    rw [hsize, ← h.size_eq j]
    rw [← h.size_eq id] at hin
    rw [contents, Table.get?_insert]
    split
    · rename_i hj
      rw [Option.getD_some, Bytes.size_overwrite hin, hj]
    · rfl
  byte_eq j i hi := by
    rw [hsize] at hi
    rw [hbyte j i hi, ← h.byte_eq j i hi, contents, Table.get?_insert]
    rw [← h.size_eq id] at hin
    by_cases hj : j = id
    · rw [if_pos hj, Option.getD_some, Bytes.getElem?_overwrite hin, hj]
      simp only [true_and]
    · rw [if_neg hj, if_neg fun hwritten => hj hwritten.1]
      rfl

lemma write (h : d.Holds alignment a) {id : BufferId} {offset : ℕ} {bytes : Bytes}
    (hreach : a.InReach alignment id offset bytes.size) :
    Holds { d with buffers := d.buffers.insert id ((d.contents id).overwrite offset bytes) }
      alignment (a.write id offset bytes) := by
  have hbyte : ∀ j i, i < a.size j → some ((a.write id offset bytes).byte j i) =
      if j = id ∧ offset ≤ i ∧ i < offset + bytes.size then bytes[i - offset]?
      else some (a.byte j i) := by
    intro j i _
    rw [Arrays.write]
    dsimp only
    by_cases hin : j = id ∧ offset ≤ i ∧ i < offset + bytes.size
    · rw [if_pos hin, if_pos hin, Array.getElem?_eq_getElem (by omega), Array.getD,
        dif_pos (by omega)]
      rfl
    · rw [if_neg hin, if_neg hin]
  have hholds := h.overwrite hreach.1 (b := a.write id offset bytes) rfl rfl hbyte
  rw [show (a.write id offset bytes).copies = d.copies from h.copies_eq.symm] at hholds
  exact hholds

lemma copy (h : d.Holds alignment a) {source target : BufferId} {sourceOffset targetOffset
      length : ℕ} (hsource : a.InReach alignment source sourceOffset length)
    (htarget : a.InReach alignment target targetOffset length) :
    Holds { d with
      buffers := d.buffers.insert target ((d.contents target).overwrite targetOffset
        ((d.contents source).slice sourceOffset length))
      copies := d.copies + 1 } alignment
        (a.copy source sourceOffset target targetOffset length) := by
  have hlength : ((d.contents source).slice sourceOffset length).size = length :=
    Bytes.size_slice (by rw [h.size_eq]; exact hsource.1)
  have hbyte : ∀ j i, i < a.size j →
      some ((a.copy source sourceOffset target targetOffset length).byte j i) =
        if j = target ∧ targetOffset ≤ i ∧
            i < targetOffset + ((d.contents source).slice sourceOffset length).size then
          ((d.contents source).slice sourceOffset length)[i - targetOffset]?
        else some (a.byte j i) := by
    intro j i _
    have hsourceIn := hsource.1
    rw [Arrays.copy, hlength]
    dsimp only
    by_cases hin : j = target ∧ targetOffset ≤ i ∧ i < targetOffset + length
    · rw [if_pos hin, if_pos hin, Bytes.getElem?_slice, if_pos (by omega),
        h.byte_eq source _ (by omega)]
    · rw [if_neg hin, if_neg hin]
  have hholds := h.overwrite (by rw [hlength]; exact htarget.1)
    (b := a.copy source sourceOffset target targetOffset length) rfl rfl hbyte
  rw [h.copies_eq]
  exact hholds

lemma allocate (h : d.Holds alignment a) (size : ℕ) :
    Holds { d with
      created := d.created + 1
      buffers := d.buffers.insert (d.created + 1) (Bytes.zeros size) } alignment
        (a.allocate size) where
  alignment_eq := h.alignment_eq
  made_eq := congrArg (· + 1) h.made_eq
  copies_eq := h.copies_eq
  size_eq j := by
    rw [contents, Table.get?_insert, Arrays.allocate, ← h.made_eq]
    dsimp only
    split
    · rw [Option.getD_some, Bytes.size_zeros]
    · exact h.size_eq j
  byte_eq j i hi := by
    rw [Arrays.allocate, ← h.made_eq] at hi ⊢
    dsimp only at hi ⊢
    rw [contents, Table.get?_insert]
    by_cases hj : j = d.created + 1
    · rw [if_pos hj] at hi ⊢
      rw [if_pos hj, Option.getD_some, Bytes.getElem?_zeros, if_pos hi]
    · rw [if_neg hj] at hi ⊢
      rw [if_neg hj]
      exact h.byte_eq j i hi

lemma release (h : d.Holds alignment a) (id : BufferId) :
    (d.releaseBuffer id).Holds alignment (a.release id) where
  alignment_eq := h.alignment_eq
  made_eq := h.made_eq
  copies_eq := h.copies_eq
  size_eq j := by
    rw [contents, releaseBuffer, Table.get?_erase, Arrays.release]
    dsimp only
    split
    · rfl
    · exact h.size_eq j
  byte_eq j i hi := by
    rw [Arrays.release] at hi
    dsimp only at hi
    by_cases hj : j = id
    · rw [if_pos hj] at hi
      omega
    · rw [if_neg hj] at hi
      rw [contents, releaseBuffer, Table.get?_erase, if_neg hj]
      exact h.byte_eq j i hi

end Holds

/-! ### Calls -/

section

variable {d : MemoryDevice} {id source target : BufferId}
  {offset sourceOffset targetOffset length : ℕ}

lemma checkGranule_of_fits (h : d.heap.Fits id offset length) :
    checkGranule d.alignment offset length = .ok () := by
  rcases checkGranule_eq d.alignment offset length with ⟨-, -, hok⟩ | ⟨hbad, -⟩
  · exact hok
  · exact absurd ⟨h.offset_dvd, h.length_dvd⟩ hbad

lemma checkRange_of_fits (h : d.heap.Fits id offset length) :
    checkRange (d.contents id).size offset length = .ok () := if_pos h.inside

lemma writeBuffer_of_fits {bytes : Bytes} (h : d.heap.Fits id offset bytes.size) :
    d.writeBuffer id offset bytes = (.ok (), { d with
      buffers := d.buffers.insert id ((d.contents id).overwrite offset bytes) }) := by
  rw [writeBuffer, checkGranule_of_fits h]
  dsimp only
  rw [checkRange_of_fits h]

lemma copyBuffer_of_fits (hsource : d.heap.Fits source sourceOffset length)
    (htarget : d.heap.Fits target targetOffset length) :
    d.copyBuffer source sourceOffset target targetOffset length = (.ok (), { d with
      buffers := d.buffers.insert target ((d.contents target).overwrite targetOffset
        ((d.contents source).slice sourceOffset length))
      copies := d.copies + 1 }) := by
  have hlength : ((d.contents source).slice sourceOffset length).size = length :=
    Bytes.size_slice hsource.inside
  rw [copyBuffer, checkGranule_of_fits hsource, checkGranule_of_fits htarget]
  dsimp only
  rw [checkRange_of_fits hsource]
  dsimp only
  rw [writeBuffer_of_fits (by rw [hlength]; exact htarget)]

end

/-- A call that is allowed is done and answers with a value; one that is not is refused, and the
device is as before. -/
def AllOrNothing {α : Type} (d : MemoryDevice) (allowed : Prop)
    (out : Except DeviceFault α × MemoryDevice) (value : α) (Done : MemoryDevice → Prop) : Prop :=
  (allowed ∧ ∃ d', out = (.ok value, d') ∧ Done d') ∨
    (¬ allowed ∧ ∃ fault, out = (.error fault, d))

namespace Holds

variable {d : MemoryDevice} {alignment : ℕ} {a : Arrays}

lemma createBuffer (h : d.Holds alignment a) (size : ℕ) :
    d.AllOrNothing (HostRoom.of size = .granted) (d.createBuffer size) (a.made + 1)
      fun d' => d'.Holds alignment (a.allocate size) := by
  rw [MemoryDevice.createBuffer, ← h.made_eq]
  cases hroom : HostRoom.of size with
  | granted => exact .inl ⟨rfl, _, rfl, h.allocate size⟩
  | tooLong => exact .inr ⟨by simp, _, rfl⟩
  | exhausted => exact .inr ⟨by simp, _, rfl⟩

lemma writeBuffer (h : d.Holds alignment a) (id : BufferId) (offset : ℕ) (bytes : Bytes) :
    d.AllOrNothing (a.InReach alignment id offset bytes.size) (d.writeBuffer id offset bytes) ()
      fun d' => d'.Holds alignment (a.write id offset bytes) := by
  rcases d.writeBuffer_heap id offset bytes with ⟨hfits, -⟩ | ⟨hfits, hrefused⟩
  · have hreach := (h.fits_iff id offset bytes.size).mp hfits
    exact .inl ⟨hreach, _, writeBuffer_of_fits hfits, h.write hreach⟩
  · exact .inr ⟨fun hreach => hfits ((h.fits_iff id offset bytes.size).mpr hreach), hrefused⟩

lemma copyBuffer (h : d.Holds alignment a) (source : BufferId) (sourceOffset : ℕ)
    (target : BufferId) (targetOffset length : ℕ) :
    d.AllOrNothing (a.InReach alignment source sourceOffset length ∧
        a.InReach alignment target targetOffset length)
      (d.copyBuffer source sourceOffset target targetOffset length) ()
      fun d' => d'.Holds alignment (a.copy source sourceOffset target targetOffset length) := by
  rcases d.copyBuffer_heap source sourceOffset target targetOffset length with
    ⟨⟨hsource, htarget⟩, -⟩ | ⟨hfits, hrefused⟩
  · have hreach := (h.fits_iff source sourceOffset length).mp hsource
    have hreach' := (h.fits_iff target targetOffset length).mp htarget
    exact .inl ⟨⟨hreach, hreach'⟩, _, copyBuffer_of_fits hsource htarget, h.copy hreach hreach'⟩
  · refine .inr ⟨fun hreach => hfits ⟨?_, ?_⟩, hrefused⟩
    · exact (h.fits_iff source sourceOffset length).mpr hreach.1
    · exact (h.fits_iff target targetOffset length).mpr hreach.2

end Holds

lemma AllOrNothing.mono {α : Type} {d : MemoryDevice} {allowed : Prop}
    {out : Except DeviceFault α × MemoryDevice} {value : α} {Done Done' : MemoryDevice → Prop}
    (h : d.AllOrNothing allowed out value Done) (himp : ∀ d', Done d' → Done' d') :
    d.AllOrNothing allowed out value Done' := by
  rcases h with ⟨hallowed, d', hout, hdone⟩ | hrefused
  · exact .inl ⟨hallowed, d', hout, himp d' hdone⟩
  · exact .inr hrefused

/-- After a call that does what it says or nothing, the device holds what a step says. -/
lemma AllOrNothing.snd {α : Type} {d : MemoryDevice} {allowed : Prop} [Decidable allowed]
    {out : Except DeviceFault α × MemoryDevice} {value : α} {alignment : ℕ} {a a' : Arrays}
    (h : d.AllOrNothing allowed out value fun d' => d'.Holds alignment a')
    (hd : d.Holds alignment a) : out.2.Holds alignment (if allowed then a' else a) := by
  rcases h with ⟨hallowed, d', rfl, hdone⟩ | ⟨hrefused, fault, rfl⟩
  · rw [if_pos hallowed]
    exact hdone
  · rw [if_neg hrefused]
    exact hd

namespace Holds

variable {d : MemoryDevice} {alignment : ℕ} {a : Arrays}

/-- Every call to the device takes the step of the arrays. -/
theorem perform (h : d.Holds alignment a) (request : HostRequest) :
    (request.perform d).2.Holds alignment (a.step alignment request) := by
  have hchanges := changes_perform request d
  cases request with
  | createBuffer size label => exact (h.createBuffer size).snd h
  | releaseBuffer id => exact h.release id
  | writeBuffer id offset bytes => exact (h.writeBuffer id offset bytes).snd h
  | copyBuffer source sourceOffset target targetOffset length =>
    exact (h.copyBuffer source sourceOffset target targetOffset length).snd h
  | _ =>
    generalize (Request.perform _ d).2 = d' at hchanges ⊢
    cases hchanges
    exact ⟨h.alignment_eq, h.made_eq, h.copies_eq, h.size_eq, h.byte_eq⟩

/-- After any calls the device holds what the arrays have become. -/
theorem performs (h : d.Holds alignment a) (requests : List HostRequest) :
    (d.performs requests).Holds alignment (a.run alignment requests) := by
  induction requests generalizing d a with
  | nil => exact h
  | cons request requests ih => exact ih (h.perform request)

end Holds

end MemoryDevice

/-! ### The memory -/

open MemoryDevice in
/-- A new device holds no arrays. -/
lemma MemoryDevice.Holds.initial (alignment : ℕ) :
    Holds { alignment } alignment {} where
  alignment_eq := rfl
  made_eq := rfl
  copies_eq := rfl
  size_eq _ := rfl
  byte_eq _ i hi := absurd hi (Nat.not_lt_zero i)

namespace Arrays

variable {P D : Type} {alignment : ℕ}

/-- No array has as many bytes as host memory has no room for. -/
def Housed (a : Arrays) : Prop := ∀ id, a.size id < 0x100000000000000

lemma Housed.empty : Housed {} := fun _ => (by decide : 0 < 0x100000000000000)

lemma Housed.step {a : Arrays} (h : a.Housed) (request : Request P D) :
    (a.step alignment request).Housed := by
  cases request with
  | createBuffer size label =>
    rw [Arrays.step]
    split
    · rename_i hroom
      intro id
      rw [allocate]
      dsimp only
      split
      · by_contra hlarge
        rw [HostRoom.of] at hroom
        split at hroom
        · cases hroom
        · rw [if_pos (by omega)] at hroom
          cases hroom
      · exact h id
    · exact h
  | releaseBuffer id =>
    intro j
    rw [Arrays.step, release]
    dsimp only
    split
    · decide
    · exact h j
  | writeBuffer id offset bytes =>
    rw [Arrays.step]
    split
    · exact h
    · exact h
  | copyBuffer source sourceOffset target targetOffset length =>
    rw [Arrays.step]
    split
    · exact h
    · exact h
  | _ => exact h

lemma Housed.run {a : Arrays} (h : a.Housed) (requests : List (Request P D)) :
    (a.run alignment requests).Housed := by
  induction requests generalizing a with
  | nil => exact h
  | cons request requests ih => exact ih (h.step request)

/-- A range lies inside an array exactly where its end is a 64-bit number, and no larger than the
array. -/
lemma Housed.inside_iff {a : Arrays} (h : a.Housed) (id : BufferId) (offset length : ℕ) :
    offset + length ≤ a.size id ↔
      ∃ stop, Word.add? offset length = some stop ∧ stop ≤ a.size id := by
  constructor
  · intro hin
    have hsize := h id
    have hword : offset + length < Word.range := by
      rw [Word.range]
      omega
    exact ⟨_, Word.add?_eq hword, hin⟩
  · rintro ⟨stop, hstop, hin⟩
    obtain ⟨-, heq⟩ := Option.ite_none_right_eq_some.mp hstop
    cases heq
    exact hin

end Arrays

/-- **Device memory is a family of independent byte arrays.** After any calls, with any numbers for
offsets and lengths and any alignment, what can be read of a device in host memory is what the
arrays say: the bytes of a range inside a buffer, and nothing of any other range. The next call to
make a buffer, to write or to copy is done in full, or it is refused and the whole device is as
before. Writes and copies are done exactly where all their ranges lie inside their buffers and, if
the alignment is above one, offsets and lengths are multiples of it. A range lies inside where its
end, added up in 64 bits without wrapping around, is inside. -/
theorem memory_arrays (alignment : ℕ) (requests : List HostRequest) :
    let d := MemoryDevice.performs requests { alignment }
    let a := Arrays.run alignment requests {}
    d.Shows a ∧
    (∀ size, d.AllOrNothing (HostRoom.of size = .granted) (d.createBuffer size) (a.made + 1)
      fun d' => d'.Shows (a.allocate size)) ∧
    (∀ id offset bytes,
      d.AllOrNothing (a.InReach alignment id offset bytes.size) (d.writeBuffer id offset bytes) ()
        fun d' => d'.Shows (a.write id offset bytes)) ∧
    (∀ source sourceOffset target targetOffset length,
      d.AllOrNothing (a.InReach alignment source sourceOffset length ∧
          a.InReach alignment target targetOffset length)
        (d.copyBuffer source sourceOffset target targetOffset length) ()
        fun d' => d'.Shows (a.copy source sourceOffset target targetOffset length)) ∧
    ∀ id offset length, offset + length ≤ a.size id ↔
      ∃ stop, Word.add? offset length = some stop ∧ stop ≤ a.size id := by
  intro d a
  have h : d.Holds alignment a := (MemoryDevice.Holds.initial alignment).performs requests
  have hhoused : a.Housed := Arrays.Housed.empty.run requests
  refine ⟨h.shows, fun size => ?_, fun id offset bytes => ?_,
    fun source sourceOffset target targetOffset length => ?_, hhoused.inside_iff⟩
  · exact (h.createBuffer size).mono fun d' hd' => hd'.shows
  · exact (h.writeBuffer id offset bytes).mono fun d' hd' => hd'.shows
  · exact (h.copyBuffer source sourceOffset target targetOffset length).mono
      fun d' hd' => hd'.shows

/-- A buffer copied onto itself, onto bytes that are yet to be read; a range that is no multiple of
the alignment, and one whose end is no 64-bit number, are refused. -/
example : ((Arrays.run 2 ([.createBuffer 6 none, .writeBuffer 1 0 #[1, 2, 3, 4, 5, 6],
    .copyBuffer 1 0 1 2 4, .writeBuffer 1 1 #[9, 9], .copyBuffer 1 0 1 0xfffffffffffffffe 4] :
      List HostRequest) {}).read 1 0 6) = some #[1, 2, 1, 2, 3, 4] := by decide +kernel

end RenderBridge
