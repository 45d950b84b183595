import RenderBridge.Proofs.Device.Heap
import RenderBridge.Proofs.Number.Word
/-!
How a logical buffer lies in its allocation, and what staging an upload does.

* `BufferRecord.Laid`: the slots fill the allocation in whole granules, and there is a shadow of it
  where the device copies in granules.
* `BufferRecord.Mirrored`: the shadow is what the device holds.
* `BufferRecord.stage_cases`: **a staged upload** is in whole granules, stays in the slot that it is
  for, and writes what was meant.
* `BufferRecord.stage_sends`: where the device holds something else, the upload brings what was
  meant beside it along.
-/

set_option autoImplicit false

namespace RenderBridge.BufferRecord

/-- A record whose slots lie in its allocation. -/
structure Laid (h : Heap) (r : BufferRecord) : Prop where
  size_pos : 0 < r.size
  size_le : r.size ≤ r.slotSize
  granule_dvd : h.granule ∣ r.slotSize
  total_lt : r.total < 2 ^ 56
  contents_size : (h.contents r.buffer).size = r.total
  made : r.buffer ≤ h.created
  shadow_none : r.shadow = none → h.granule = 1
  shadow_size : ∀ shadow, r.shadow = some shadow → shadow.size = r.total

/-- The shadow, where there is one, is what the device holds. -/
def Mirrored (h : Heap) (r : BufferRecord) : Prop :=
  ∀ shadow, r.shadow = some shadow → shadow = h.contents r.buffer

variable {h h' : Heap} {r : BufferRecord}

/-! ### Slots -/

lemma slotCount_pos (r : BufferRecord) : 0 < r.slotCount := by
  rw [slotCount]
  cases r.usage <;> decide

lemma activeSlot_lt (r : BufferRecord) (serial : FrameSerial) :
    r.activeSlot serial < r.slotCount := by
  have hpos := r.slotCount_pos
  rw [activeSlot, FrameSerial.slot, max_eq_left hpos]
  exact Nat.mod_lt _ hpos

/-- A slot ends inside the allocation. -/
lemma slotOffset_add_le {slot : ℕ} (hslot : slot < r.slotCount) :
    r.slotOffset slot + r.slotSize ≤ r.total := by
  calc r.slotOffset slot + r.slotSize = (slot + 1) * r.slotSize := by rw [slotOffset]; ring
    _ ≤ r.slotCount * r.slotSize := Nat.mul_le_mul_right _ hslot
    _ = r.total := by rw [total]; ring

lemma slotSize_le_total (r : BufferRecord) : r.slotSize ≤ r.total := by
  have hslot := slotOffset_add_le r.slotCount_pos
  omega

/-- Different slots lie apart. -/
lemma slotOffset_apart {slot slot' : ℕ} (hne : slot ≠ slot') :
    r.slotOffset slot + r.slotSize ≤ r.slotOffset slot' ∨
      r.slotOffset slot' + r.slotSize ≤ r.slotOffset slot := by
  have hstep : ∀ a b : ℕ, a < b → r.slotOffset a + r.slotSize ≤ r.slotOffset b := by
    intro a b hab
    calc r.slotOffset a + r.slotSize = (a + 1) * r.slotSize := by rw [slotOffset]; ring
      _ ≤ b * r.slotSize := Nat.mul_le_mul_right _ hab
  rcases Nat.lt_or_gt_of_ne hne with hlt | hlt
  · exact .inl (hstep slot slot' hlt)
  · exact .inr (hstep slot' slot hlt)

namespace Laid

lemma slotSize_pos (hr : r.Laid h) : 0 < r.slotSize := lt_of_lt_of_le hr.size_pos hr.size_le

lemma granule_le_total (hr : r.Laid h) : h.granule ≤ r.total :=
  (Nat.le_of_dvd hr.slotSize_pos hr.granule_dvd).trans r.slotSize_le_total

lemma granule_dvd_slotOffset (hr : r.Laid h) (slot : ℕ) : h.granule ∣ r.slotOffset slot :=
  hr.granule_dvd.mul_left slot

/-- A range of a slot lies in the allocation. -/
lemma slot_fits (hr : r.Laid h) {slot offset length : ℕ} (hslot : slot < r.slotCount)
    (hrange : offset + length ≤ r.size) :
    r.slotOffset slot + (offset + length) ≤ (h.contents r.buffer).size := by
  have hend := slotOffset_add_le hslot
  have hsize := hr.size_le
  rw [hr.contents_size]
  omega

/-- A record stays laid out where its buffer keeps its size. -/
lemma resized {kept : BufferId → Prop} (hr : r.Laid h) (hf : Heap.Frame kept h h')
    (hsize : (h'.contents r.buffer).size = (h.contents r.buffer).size) : r.Laid h' where
  size_pos := hr.size_pos
  size_le := hr.size_le
  granule_dvd := by
    rw [hf.granule]
    exact hr.granule_dvd
  total_lt := hr.total_lt
  contents_size := hsize.trans hr.contents_size
  made := hr.made.trans hf.created
  shadow_none hnone := by
    rw [hf.granule]
    exact hr.shadow_none hnone
  shadow_size := hr.shadow_size

lemma frame {kept : BufferId → Prop} (hr : r.Laid h) (hf : Heap.Frame kept h h')
    (hkept : kept r.buffer) : r.Laid h' :=
  hr.resized hf (congrArg Array.size (hf.contents r.buffer hr.made hkept))

end Laid

lemma Mirrored.frame {kept : BufferId → Prop} (hm : r.Mirrored h) (hr : r.Laid h)
    (hf : Heap.Frame kept h h') (hkept : kept r.buffer) : r.Mirrored h' := by
  intro shadow hshadow
  rw [hf.contents r.buffer hr.made hkept]
  exact hm shadow hshadow

/-! ### Staging -/

/-- A range widened to whole granules: it stays between any two multiples of the granule around
the range. -/
structure Widened (granule offset length : ℕ) (upload : Upload) : Prop where
  offset_dvd : granule ∣ upload.offset
  length_dvd : granule ∣ upload.bytes.size
  covers : length ≤ upload.bytes.size
  inside : ∀ start stop, granule ∣ start → granule ∣ stop → start ≤ offset →
    offset + length ≤ stop → start ≤ upload.offset ∧ upload.offset + upload.bytes.size ≤ stop

section

variable {contents shadow bytes : Bytes} {offset granule : ℕ}

/-- Widening takes the range between two multiples of the granule from the shadow. -/
lemma widen_eq (hg : 0 < granule) (hdvd : granule ∣ shadow.size)
    (hrange : offset + bytes.size ≤ shadow.size) (hword : shadow.size + granule ≤ Word.range) :
    ∃ start stop part, start = offset / granule * granule ∧
      stop = Word.alignUp (offset + bytes.size) granule ∧
      start ≤ offset ∧ offset + bytes.size ≤ stop ∧ stop ≤ shadow.size ∧
      part = (shadow.overwrite offset bytes).slice start (stop - start) ∧
      part.size = stop - start ∧
      Upload.widen shadow offset bytes granule =
        (⟨start, part⟩, shadow.overwrite offset bytes) := by
  have hpatched : (shadow.overwrite offset bytes).size = shadow.size := Bytes.size_overwrite hrange
  have hround : offset + bytes.size + (granule - 1) < Word.range := by omega
  have hstop := Word.alignUp_le hg hround hdvd hrange
  have hle := Word.le_alignUp hg hround
  have hstart : offset / granule * granule ≤ offset := Nat.div_mul_le_self _ _
  refine ⟨_, _, _, rfl, rfl, hstart, hle, hstop, rfl, Bytes.size_slice (by omega), ?_⟩
  rw [Upload.widen, hpatched, min_eq_left hstop]

/-- Widening takes the bytes at the edges from the shadow, so it writes what was meant. -/
lemma widen_cases (hg : 0 < granule) (hdvd : granule ∣ shadow.size)
    (hrange : offset + bytes.size ≤ shadow.size) (hword : shadow.size + granule ≤ Word.range) :
    ∃ upload, Upload.widen shadow offset bytes granule = (upload, shadow.overwrite offset bytes) ∧
      Widened granule offset bytes.size upload ∧
      shadow.overwrite upload.offset upload.bytes = shadow.overwrite offset bytes := by
  have hround : offset + bytes.size + (granule - 1) < Word.range := by omega
  obtain ⟨start, stop, part, rfl, rfl, hstart, hle, hstop, rfl, hlength, hwiden⟩ :=
    widen_eq hg hdvd hrange hword
  refine ⟨_, hwiden, ⟨Nat.dvd_mul_left _ _, ?_, ?_, ?_⟩, ?_⟩
  · rw [hlength]
    exact Nat.dvd_sub (Word.dvd_alignUp _ _) (Nat.dvd_mul_left _ _)
  · rw [hlength]
    omega
  · intro start stop hstartdvd hstopdvd hs ht
    have hlow : start ≤ offset / granule * granule := by
      obtain ⟨q, rfl⟩ := hstartdvd
      rw [Nat.mul_comm]
      exact Nat.mul_le_mul_right _ ((Nat.le_div_iff_mul_le hg).mpr (by rwa [Nat.mul_comm]))
    have hhigh := Word.alignUp_le hg hround hstopdvd ht
    dsimp only
    rw [hlength]
    exact ⟨hlow, by omega⟩
  · exact Bytes.overwrite_slice_overwrite hstart hle hstop

/-- Where the device holds something else than the shadow, widened bytes bring what the shadow has
beside them along. -/
lemma overwrite_widen (hg : 0 < granule) (hsize : shadow.size = contents.size)
    (hdvd : granule ∣ shadow.size) (hpos : 0 < bytes.size)
    (hrange : offset + bytes.size ≤ shadow.size) (hword : shadow.size + granule ≤ Word.range) :
    contents.overwrite (Upload.widen shadow offset bytes granule).1.offset
        (Upload.widen shadow offset bytes granule).1.bytes =
      (contents.edged shadow granule offset bytes.size).overwrite offset bytes := by
  have hround : offset + bytes.size + (granule - 1) < Word.range := by omega
  obtain ⟨start, stop, part, hstart_eq, hstop_eq, hstart, hle, hstop, hpart, hlength, hwiden⟩ :=
    widen_eq hg hdvd hrange hword
  have hbeside : ∀ i, Bytes.Beside granule offset bytes.size i ↔
      ¬ (offset ≤ i ∧ i < offset + bytes.size) ∧ start ≤ i ∧ i < stop := by
    intro i
    rw [hstart_eq, hstop_eq, Word.alignUp_of_lt hround]
    exact Bytes.beside_iff hg hpos
  have hin : offset + bytes.size ≤ (contents.edged shadow granule offset bytes.size).size := by
    rw [Bytes.size_edged]
    omega
  rw [hwiden]
  apply Array.ext_getElem?
  intro i
  have hsent : start ≤ i → i < stop → part[i - start]? = if offset ≤ i ∧ i < offset + bytes.size
      then bytes[i - offset]? else shadow[i]? := by
    intro hlow hhigh
    rw [hpart, Bytes.getElem?_slice, if_pos (by omega), show start + (i - start) = i by omega,
      Bytes.getElem?_overwrite hrange]
  rw [Bytes.getElem?_overwrite (by dsimp only; omega), Bytes.getElem?_overwrite hin,
    Bytes.getElem?_edged_of_size_eq hsize]
  dsimp only
  rw [hlength]
  by_cases hrange' : offset ≤ i ∧ i < offset + bytes.size
  · rw [if_pos (by omega), hsent (by omega) (by omega)]
    simp only [hrange', and_self, if_true]
  · by_cases hnear : Bytes.Beside granule offset bytes.size i
    · obtain ⟨-, hlow, hhigh⟩ := (hbeside i).mp hnear
      rw [if_pos (by omega), hsent hlow hhigh, if_neg hrange', if_neg hrange', if_pos hnear]
    · rw [if_neg hrange', if_neg hnear, if_neg]
      rintro ⟨hlow, hhigh⟩
      exact hnear ((hbeside i).mpr ⟨hrange', hlow, by omega⟩)

end

/-- What staging an upload of `bytes` at `offset` makes of a record, and the upload. -/
structure Staged (h : Heap) (r r' : BufferRecord) (offset : ℕ) (bytes : Bytes) (upload : Upload) :
    Prop where
  record : r' = { r with shadow := r'.shadow }
  laid : r'.Laid h
  widened : Widened h.granule offset bytes.size upload
  writes : r.Mirrored h → (h.contents r.buffer).overwrite upload.offset upload.bytes =
    (h.contents r.buffer).overwrite offset bytes
  mirrors : r.Mirrored h → ∀ shadow, r'.shadow = some shadow →
    shadow = (h.contents r.buffer).overwrite offset bytes

theorem stage_cases (hr : r.Laid h) {offset : ℕ} {bytes : Bytes}
    (hrange : offset + bytes.size ≤ r.total) :
    ∃ upload r', r.stage offset bytes h.granule = (upload, r') ∧
      Staged h r r' offset bytes upload := by
  rw [stage]
  cases hshadow : r.shadow with
  | none =>
    have hone := hr.shadow_none hshadow
    refine ⟨⟨offset, bytes⟩, r, rfl, rfl, hr, ?_, fun _ => rfl, ?_⟩
    · refine ⟨?_, ?_, le_rfl, fun start stop _ _ hstart hstop => ⟨hstart, hstop⟩⟩
      · rw [hone]
        exact one_dvd _
      · rw [hone]
        exact one_dvd _
    · intro _ shadow hsome
      rw [hshadow] at hsome
      cases hsome
  | some shadow =>
    have hsize := hr.shadow_size shadow hshadow
    have htotal := hr.total_lt
    have hgranule := hr.granule_le_total
    have hin : offset + bytes.size ≤ shadow.size := by
      rw [hsize]
      exact hrange
    have hdvd : h.granule ∣ shadow.size := by
      rw [hsize]
      exact hr.granule_dvd.mul_right _
    have hword : shadow.size + h.granule ≤ Word.range := by
      rw [hsize, Word.range]
      omega
    obtain ⟨upload, hwiden, hwidened, hwrites⟩ := widen_cases h.granule_pos hdvd hin hword
    refine ⟨upload, { r with shadow := some (shadow.overwrite offset bytes) }, ?_, rfl, ?_,
      hwidened, ?_, ?_⟩
    · dsimp only
      rw [hwiden]
    · exact
        { size_pos := hr.size_pos
          size_le := hr.size_le
          granule_dvd := hr.granule_dvd
          total_lt := hr.total_lt
          contents_size := hr.contents_size
          made := hr.made
          shadow_none := fun hnone => by cases hnone
          shadow_size := fun patched hsome => by
            cases hsome
            rw [Bytes.size_overwrite hin, hsize]
            rfl }
    · intro hm
      rw [← hm shadow hshadow]
      exact hwrites
    · intro hm patched hsome
      cases hsome
      rw [hm shadow hshadow]

/-- Bytes that stand for what a buffer was meant to hold: its shadow, where there is one. -/
def Backs (r : BufferRecord) (meant : Bytes) : Prop :=
  meant.size = r.total ∧ ∀ shadow, r.shadow = some shadow → shadow = meant

/-- What a staged upload makes of the contents of a buffer, whatever they are. -/
lemma stage_sends (hr : r.Laid h) {contents meant bytes : Bytes} {offset : ℕ} {upload : Upload}
    {r' : BufferRecord} (hmeant : r.Backs meant) (hcontents : contents.size = r.total)
    (hpos : 0 < bytes.size) (hrange : offset + bytes.size ≤ r.total)
    (hstage : r.stage offset bytes h.granule = (upload, r')) :
    r'.Backs (meant.overwrite offset bytes) ∧
      contents.overwrite upload.offset upload.bytes =
        (contents.edged meant h.granule offset bytes.size).overwrite offset bytes := by
  obtain ⟨hsize, hshadow⟩ := hmeant
  have hpatched : (meant.overwrite offset bytes).size = r.total := by
    rw [Bytes.size_overwrite (by omega), hsize]
  rw [stage] at hstage
  cases hr' : r.shadow with
  | none =>
    rw [hr'] at hstage
    cases hstage
    refine ⟨⟨hpatched, fun shadow hsome => ?_⟩, ?_⟩
    · rw [hr'] at hsome
      cases hsome
    · rw [hr.shadow_none hr', Bytes.edged_of_not_beside (Bytes.not_beside_one _ _)]
  | some shadow =>
    obtain rfl := hshadow shadow hr'
    have htotal := hr.total_lt
    have hgranule := hr.granule_le_total
    have hwiden := overwrite_widen h.granule_pos (hsize.trans hcontents.symm)
      (by rw [hsize]; exact hr.granule_dvd.mul_right _) hpos (by rw [hsize]; exact hrange)
      (by rw [hsize, Word.range]; omega)
    rw [hr'] at hstage
    cases hstage
    refine ⟨⟨hpatched, fun patched hsome => ?_⟩, hwiden⟩
    cases hsome
    rfl

/-! ### Writing what is staged -/

namespace Staged

variable {r' : BufferRecord} {offset : ℕ} {bytes : Bytes} {upload : Upload}

/-- A range of a slot is widened inside the slot, and so inside the allocation. -/
lemma fits (hs : Staged h r r' offset bytes upload) (hr : r.Laid h) {slot : ℕ}
    (hslot : slot < r.slotCount) (hstart : r.slotOffset slot ≤ offset)
    (hstop : offset + bytes.size ≤ r.slotOffset slot + r.slotSize) :
    (r.slotOffset slot ≤ upload.offset ∧
        upload.offset + upload.bytes.size ≤ r.slotOffset slot + r.slotSize) ∧
      h.Fits r.buffer upload.offset upload.bytes.size := by
  have hinside := hs.widened.inside _ _ (hr.granule_dvd_slotOffset slot)
    ((hr.granule_dvd_slotOffset slot).add hr.granule_dvd) hstart hstop
  have hend := slotOffset_add_le hslot
  refine ⟨hinside, hs.widened.offset_dvd, hs.widened.length_dvd, ?_⟩
  rw [hr.contents_size]
  omega

/-- After the upload is written the record lies as before, and what was meant is written. -/
lemma written {kept : BufferId → Prop} (hs : Staged h r r' offset bytes upload)
    (hfits : h.Fits r.buffer upload.offset upload.bytes.size) (hf : Heap.Frame kept h h')
    (hcontents : h'.contents r.buffer =
      (h.contents r.buffer).overwrite upload.offset upload.bytes) :
    r'.Laid h' ∧ (r.Mirrored h → r'.Mirrored h' ∧
      h'.contents r.buffer = (h.contents r.buffer).overwrite offset bytes) := by
  have hbuffer : r'.buffer = r.buffer := by rw [hs.record]
  constructor
  · refine hs.laid.resized hf ?_
    rw [hbuffer, hcontents, Bytes.size_overwrite hfits.inside]
  · intro hm
    have hwritten := hcontents.trans (hs.writes hm)
    refine ⟨?_, hwritten⟩
    intro shadow hshadow
    rw [hbuffer, hwritten]
    exact hs.mirrors hm shadow hshadow

end Staged

end RenderBridge.BufferRecord
