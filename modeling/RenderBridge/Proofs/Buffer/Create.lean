import RenderBridge.Proofs.Buffer.Course
import RenderBridge.Proofs.Buffer.Record
/-!
Making buffers on a device in host memory.

* `BufferUsage.slotSize_cases`: the slots of a buffer that memory has room for are long enough and
  whole granules.
* `BufferAllocator.writeSlots_cases`, `fill_cases`: the initial contents of all slots.
* `BufferAllocator.create_cases`: **a new buffer** lies in a new allocation and holds its initial
  data in every slot, zeros behind it; or nothing that was there is touched.
-/

set_option autoImplicit false

namespace RenderBridge

/-- Where memory has room for the allocation, rounding did not leave the 64-bit range: the slot is
long enough, and a multiple of every granule that is a power of two. -/
lemma BufferUsage.slotSize_cases (usage : BufferUsage) {size granule k : ℕ} (hk : k < 64)
    (hgranule : granule = 2 ^ k) (hroom : usage.slotSize size granule * usage.slotCount < 2 ^ 56) :
    size ≤ usage.slotSize size granule ∧ granule ∣ usage.slotSize size granule := by
  obtain ⟨j, hj, halignment⟩ : ∃ j < 64, usage.slotAlignment = 2 ^ j := by
    cases usage with
    | unchanging => exact ⟨2, by decide, rfl⟩
    | changing => exact ⟨8, by decide, rfl⟩
  have hmax : max usage.slotAlignment granule = 2 ^ max j k := by
    rw [halignment, hgranule]
    rcases Nat.le_total j k with hjk | hkj
    · rw [max_eq_right hjk, max_eq_right (Nat.pow_le_pow_right (by decide) hjk)]
    · rw [max_eq_left hkj, max_eq_left (Nat.pow_le_pow_right (by decide) hkj)]
  have hcount : 0 < usage.slotCount := by cases usage <;> decide
  have hslot : usage.slotSize size granule < 2 ^ 56 :=
    lt_of_le_of_lt (Nat.le_mul_of_pos_right _ hcount) hroom
  rw [slotSize, hmax] at hslot ⊢
  have hround : size + (2 ^ max j k - 1) < Word.range := by
    by_contra hlarge
    have htop := Word.two_pow_le_alignUp_top (max_lt hj hk) (Nat.le_of_not_lt hlarge)
    omega
  refine ⟨Word.le_alignUp (by positivity) hround, ?_⟩
  rw [hgranule]
  exact (Nat.pow_dvd_pow 2 (le_max_right j k)).trans (Word.dvd_alignUp _ _)

namespace BufferAllocator

lemma granule_eq (t : HostDevice) : granule t = t.heap.granule := by
  have h : granule t = max (max t.heap.alignment 1) 1 := rfl
  rw [h, max_eq_left (le_max_right _ _), Heap.granule]

/-! ### Initial contents -/

/-- The contents of an allocation with bytes written to the start of the first `n` slots. -/
def filled (r : BufferRecord) (bytes : Bytes) (n : ℕ) (contents : Bytes) : Bytes :=
  (List.range n).foldl (fun contents slot => contents.overwrite (r.slotOffset slot) bytes) contents

/-- The first slots hold the bytes, and the others what they held. -/
lemma filled_slots {r : BufferRecord} {bytes contents : Bytes} (hsize : r.size ≤ r.slotSize)
    (hbytes : bytes.size ≤ r.size) (hcontents : contents.size = r.total) {n : ℕ}
    (hn : n ≤ r.slotCount) :
    (filled r bytes n contents).size = r.total ∧
      ∀ slot < r.slotCount, (filled r bytes n contents).slice (r.slotOffset slot) r.size =
        if slot < n then (contents.slice (r.slotOffset slot) r.size).overwrite 0 bytes
        else contents.slice (r.slotOffset slot) r.size := by
  induction n with
  | zero => exact ⟨hcontents, fun slot _ => by rw [if_neg (Nat.not_lt_zero slot)]; rfl⟩
  | succ n ih =>
    obtain ⟨hlen, hslots⟩ := ih (Nat.le_of_succ_le hn)
    have hstep : filled r bytes (n + 1) contents =
        (filled r bytes n contents).overwrite (r.slotOffset n) bytes := by
      rw [filled, List.range_succ, List.foldl_append]
      rfl
    have hend := BufferRecord.slotOffset_add_le (Nat.lt_of_succ_le hn)
    have hin : r.slotOffset n + bytes.size ≤ (filled r bytes n contents).size := by omega
    rw [hstep]
    refine ⟨by rw [Bytes.size_overwrite hin, hlen], fun slot hslot => ?_⟩
    by_cases heq : slot = n
    · subst heq
      rw [if_pos (Nat.lt_succ_self slot), Bytes.slice_overwrite_of_subset le_rfl (by omega)
        (by omega), hslots slot hslot, if_neg (Nat.lt_irrefl slot), Nat.sub_self]
    · have hapart := BufferRecord.slotOffset_apart (r := r) heq
      rw [Bytes.slice_overwrite_of_disjoint hin (by omega), hslots slot hslot]
      by_cases hlt : slot < n
      · rw [if_pos hlt, if_pos (by omega)]
      · rw [if_neg hlt, if_neg (by omega)]

/-- Writing the same bytes to the start of slots, as long as the device does not fail. -/
lemma writeSlots_cases {bytes : Bytes} (slots : List ℕ) {r : BufferRecord} {t : HostDevice}
    (hr : r.Laid t.heap) (hm : r.Mirrored t.heap) (hbytes : bytes.size ≤ r.size)
    (hslots : ∀ slot ∈ slots, slot < r.slotCount) :
    (∃ r' t', writeSlots bytes slots r t = (.ok r', t') ∧ r'.Laid t'.heap ∧ r'.Mirrored t'.heap ∧
        t'.heap.contents r.buffer = slots.foldl
          (fun contents slot => contents.overwrite (r.slotOffset slot) bytes)
          (t.heap.contents r.buffer) ∧
        Heap.Frame (· ≠ r.buffer) t.heap t'.heap ∧ t.Since HostExchange.Excused t') ∨
      (∃ fault t', writeSlots bytes slots r t = (.error fault, t') ∧
        Heap.Frame (· ≠ r.buffer) t.heap t'.heap ∧ t.Since HostExchange.Excused t') := by
  induction slots generalizing r t with
  | nil => exact .inl ⟨r, t, rfl, hr, hm, rfl, .refl _ _, .refl _⟩
  | cons slot rest ih =>
    have hslot := hslots slot (by simp)
    have hsize := hr.size_le
    have hend := BufferRecord.slotOffset_add_le hslot
    obtain ⟨upload, r₁, hstage, hstaged⟩ :=
      BufferRecord.stage_cases hr (show r.slotOffset slot + bytes.size ≤ r.total by omega)
    obtain ⟨-, hfits⟩ := hstaged.fits hr hslot le_rfl (by omega)
    have hbuffer : r₁.buffer = r.buffer := by rw [hstaged.record]
    rw [writeSlots, granule_eq, hstage]
    dsimp only
    rw [hbuffer]
    rcases hcall : Device.writeBuffer r.buffer upload.offset upload.bytes t with ⟨fault | _, t₁⟩
    · obtain ⟨hheap, hsince, -⟩ := HostDevice.writeBuffer_error hfits hcall
      refine .inr ⟨_, t₁, rfl, ?_, hsince.mono fun e he => he.1⟩
      rw [hheap]
      exact .refl _ _
    · obtain ⟨hheap, hsince⟩ := HostDevice.writeBuffer_ok hcall
      have hframe : Heap.Frame (· ≠ r.buffer) t.heap t₁.heap := by
        rw [hheap]
        exact t.heap.frame_write _ _ _
      obtain ⟨hlaid₁, hwritten⟩ := hstaged.written hfits hframe
        (by rw [hheap, Heap.contents_write, if_pos rfl])
      obtain ⟨hm₁, hcontents⟩ := hwritten hm
      have hexcused : t.Since HostExchange.Excused t₁ := hsince.mono fun e he => he.1
      have hoffset : r₁.slotOffset = r.slotOffset := by rw [hstaged.record]; rfl
      have hcount : r₁.slotCount = r.slotCount := by rw [hstaged.record]; rfl
      have hsize₁ : r₁.size = r.size := by rw [hstaged.record]
      dsimp only
      rcases ih hlaid₁ hm₁ (by rw [hsize₁]; exact hbytes)
          (fun s hs => by rw [hcount]; exact hslots s (List.mem_cons_of_mem _ hs)) with
        ⟨r', t', hrest, hlaid, hmirrored, hfold, hframe', hsince'⟩ |
          ⟨fault, t', hrest, hframe', hsince'⟩
      · rw [hbuffer] at hfold hframe'
        rw [hoffset, hcontents] at hfold
        exact .inl ⟨r', t', hrest, hlaid, hmirrored, hfold, hframe.trans hframe',
          hexcused.trans hsince'⟩
      · rw [hbuffer] at hframe'
        exact .inr ⟨fault, t', hrest, hframe.trans hframe', hexcused.trans hsince'⟩

/-- What a buffer holds after it is made: its initial data in every slot. -/
def Seeded (h : Heap) (r : BufferRecord) (data : Option Bytes) : Prop :=
  ∀ slot < r.slotCount, (h.contents r.buffer).slice (r.slotOffset slot) r.size =
    Bytes.seeded r.size (data.getD #[])

/-- Where nothing is written a new buffer is zero. -/
lemma seeded_of_zeros {h : Heap} {r : BufferRecord} {data : Option Bytes} (hr : r.Laid h)
    (hzeros : h.contents r.buffer = Bytes.zeros r.total) (hempty : (data.getD #[]).size = 0) :
    Seeded h r data := by
  intro slot hslot
  have hend := BufferRecord.slotOffset_add_le hslot
  have hsize := hr.size_le
  have hnil : data.getD #[] = #[] := Array.eq_empty_of_size_eq_zero hempty
  rw [hzeros, Bytes.slice_zeros (by omega), hnil, ← Bytes.overwrite_zeros_eq_seeded (Nat.zero_le _)]
  apply Array.ext_getElem?
  intro i
  rw [Bytes.getElem?_overwrite (by simp), if_neg (by simp)]

/-- Writing the initial data into every slot of a buffer of zeros. -/
lemma writeSlots_seeded {r : BufferRecord} {t : HostDevice} {bytes : Bytes} (hr : r.Laid t.heap)
    (hm : r.Mirrored t.heap) (hzeros : t.heap.contents r.buffer = Bytes.zeros r.total)
    (hbytes : bytes.size ≤ r.size) :
    (∃ r' t', writeSlots bytes (List.range r.slotCount) r t = (.ok r', t') ∧
        r'.Laid t'.heap ∧ r'.Mirrored t'.heap ∧ Seeded t'.heap r' (some bytes) ∧
        Heap.Frame (· ≠ r.buffer) t.heap t'.heap ∧ t.Since HostExchange.Excused t') ∨
      (∃ fault t', writeSlots bytes (List.range r.slotCount) r t = (.error fault, t') ∧
        Heap.Frame (· ≠ r.buffer) t.heap t'.heap ∧ t.Since HostExchange.Excused t') := by
  rcases writeSlots_cases (List.range r.slotCount) hr hm hbytes
      (fun slot hslot => List.mem_range.mp hslot) with
    ⟨r', t', hwrite, hlaid, hmirrored, hfold, hframe, hsince⟩ | hfailed
  · refine .inl ⟨r', t', hwrite, hlaid, hmirrored, ?_, hframe, hsince⟩
    have hfilled : t'.heap.contents r.buffer =
        filled r bytes r.slotCount (t.heap.contents r.buffer) := hfold
    obtain ⟨-, hslots⟩ :=
      filled_slots hr.size_le hbytes hr.contents_size (le_refl r.slotCount)
    have hseeded : Seeded t'.heap r (some bytes) := by
      intro slot hslot
      have hend := BufferRecord.slotOffset_add_le hslot
      have hsize := hr.size_le
      rw [hfilled, hslots slot hslot, if_pos hslot, hzeros, Bytes.slice_zeros (by omega),
        Bytes.overwrite_zeros_eq_seeded hbytes]
      rfl
    rw [writeSlots_record hwrite]
    exact hseeded
  · exact .inr hfailed

/-- The shadow and the initial contents of a new buffer of zeros. -/
lemma fill_cases (host : HostMemory) {r : BufferRecord} {t : HostDevice} {data : Option Bytes}
    (hsize : 0 < r.size) (hslot : r.size ≤ r.slotSize) (hdvd : t.heap.granule ∣ r.slotSize)
    (htotal : r.total < 2 ^ 56)
    (hmade : r.buffer ≤ t.heap.created) (hzeros : t.heap.contents r.buffer = Bytes.zeros r.total)
    (hdata : (data.getD #[]).size ≤ r.size) :
    (∃ r' t', fill host r data t = (.ok r', t') ∧ r'.Laid t'.heap ∧ r'.Mirrored t'.heap ∧
        Seeded t'.heap r' data ∧ Heap.Frame (· ≠ r.buffer) t.heap t'.heap ∧
        t.Since HostExchange.Excused t') ∨
      (∃ fault t', fill host r data t = (.error fault, t') ∧
        Heap.Frame (· ≠ r.buffer) t.heap t'.heap ∧ t.Since HostExchange.Excused t') := by
  -- A shadow that is had is one of the zeros of the allocation.
  have hshadowed : ∀ shadow, newShadow host (granule t) r.total = .ok shadow →
      BufferRecord.Laid t.heap { r with shadow } ∧
        BufferRecord.Mirrored t.heap { r with shadow } := by
    intro shadow hnew
    rw [granule_eq] at hnew
    have hsome : ∀ s, shadow = some s → s = Bytes.zeros r.total := by
      rintro s rfl
      rcases newShadow_ok hnew with ⟨-, hnone⟩ | ⟨-, -, hzeroed⟩
      · cases hnone
      · exact Option.some.inj hzeroed
    refine ⟨?_, fun s hs => (hsome s hs).trans hzeros.symm⟩
    exact
      { size_pos := hsize
        size_le := hslot
        granule_dvd := hdvd
        total_lt := htotal
        contents_size := by rw [hzeros, Bytes.size_zeros]; rfl
        made := hmade
        shadow_none := by
          rintro rfl
          rcases newShadow_ok hnew with ⟨hfine, -⟩ | ⟨-, -, hsome⟩
          · exact Nat.le_antisymm hfine t.heap.granule_pos
          · cases hsome
        shadow_size := fun s hs => by rw [hsome s hs, Bytes.size_zeros]; rfl }
  have hcourse := fill_course host r data t
  generalize fill host r data t = out at hcourse ⊢
  cases hcourse with
  | unshadowed => exact .inr ⟨_, t, rfl, .refl _ _, .refl _⟩
  | blank hshadow hempty =>
    obtain ⟨hlaid, hmirrored⟩ := hshadowed _ hshadow
    exact .inl ⟨_, t, rfl, hlaid, hmirrored, seeded_of_zeros hlaid hzeros hempty, .refl _ _,
      .refl _⟩
  | written hshadow hpos hwrite =>
    obtain ⟨hlaid, hmirrored⟩ := hshadowed _ hshadow
    rw [← hwrite]
    exact writeSlots_seeded hlaid hmirrored hzeros hdata

/-! ### New buffers -/

/-- What a request for a buffer that goes ahead has passed. -/
lemma checkCreate_ok {usage : BufferUsage} {size : ℤ} {data : Option Bytes} {g slotSize : ℕ}
    (h : checkCreate usage size data g = .ok slotSize) :
    0 < size.toNat ∧ (data.getD #[]).size ≤ size.toNat ∧
      slotSize = usage.slotSize size.toNat g := by
  rw [checkCreate] at h
  split_ifs at h with hpos
  dsimp only at h
  split_ifs at h with hlong hword
  have hlength : (data.map Array.size).getD 0 = (data.getD #[]).size := by
    cases data <;> rfl
  rw [hlength] at hlong
  cases h
  exact ⟨by omega, by omega, rfl⟩

/-- A new buffer over a new allocation, with its initial data in every slot. -/
structure Created (h h' : Heap) (usage : BufferUsage) (size : ℤ) (data : Option Bytes)
    (r : BufferRecord) : Prop where
  usage_eq : r.usage = usage
  size_eq : r.size = size.toNat
  fresh : r.buffer = h.created + 1
  laid : r.Laid h'
  mirrored : r.Mirrored h'
  seeded : Seeded h' r data

/-- What filling leaves of a new allocation. -/
lemma fill_created {host : HostMemory} {t t₁ t₂ : HostDevice}
    (hpow : ∃ k < 64, t.heap.granule = 2 ^ k) {usage : BufferUsage} {size : ℤ}
    {data : Option Bytes} {slotSize : ℕ} {label : Option String} {buffer : BufferId}
    {answer : Except Fault BufferRecord}
    (hcheck : checkCreate usage size data (granule t) = .ok slotSize)
    (hcall : Device.createBuffer (slotSize * usage.slotCount) label t = (.ok buffer, t₁))
    (hfill : fill host ⟨usage, size.toNat, slotSize, buffer, none⟩ data t₁ = (answer, t₂)) :
    t.heap.created < buffer ∧ Heap.Frame (fun _ => True) t.heap t₂.heap ∧
      t.Since HostExchange.Excused t₂ ∧
      ∀ r, answer = .ok r → Created t.heap t₂.heap usage size data r := by
  obtain ⟨rfl, hroom, hheap, hsince⟩ := HostDevice.createBuffer_ok hcall
  rw [granule_eq] at hcheck
  obtain ⟨hpos, hdata, rfl⟩ := checkCreate_ok hcheck
  obtain ⟨k, hk, hgranule⟩ := hpow
  obtain ⟨hle, hdvd⟩ := usage.slotSize_cases hk hgranule (HostRoom.lt_of_granted hroom)
  have hframe := t.heap.frame_allocate (usage.slotSize size.toNat t.heap.granule * usage.slotCount)
  rw [← hheap] at hframe
  -- Nothing made before the new buffer is touched by filling it.
  have hold : ∀ id ≤ t.heap.created, True → id ≠ t.heap.created + 1 := fun id hid _ =>
    Nat.ne_of_lt (Nat.lt_succ_of_le hid)
  have hexcused : t.Since HostExchange.Excused t₁ := hsince.mono fun e he => he.1
  refine ⟨Nat.lt_succ_self _, ?_⟩
  rcases fill_cases host (r := ⟨usage, size.toNat, _, t.heap.created + 1, none⟩) hpos hle
      (by rw [hframe.granule]; exact hdvd) (HostRoom.lt_of_granted hroom)
      (by rw [hheap]; exact le_rfl) (by rw [hheap, Heap.contents_allocate, if_pos rfl]; rfl)
      hdata with
    ⟨r', t', hdone, hlaid, hmirrored, hseeded, hframe₂, hsince₂⟩ |
      ⟨fault, t', hdone, hframe₂, hsince₂⟩
  · cases hfill.symm.trans hdone
    refine ⟨hframe.trans_of_imp hframe₂ hold, hexcused.trans hsince₂, ?_⟩
    rintro _ ⟨⟩
    have hrecord := fill_record hfill
    exact ⟨by rw [hrecord], by rw [hrecord], by rw [hrecord], hlaid, hmirrored, hseeded⟩
  · cases hfill.symm.trans hdone
    refine ⟨hframe.trans_of_imp hframe₂ hold, hexcused.trans hsince₂, ?_⟩
    rintro _ ⟨⟩

/-- Giving a new allocation back touches none of the older ones. -/
lemma releaseBuffer_new {t t₂ : HostDevice} {buffer : BufferId} (hnew : t.heap.created < buffer)
    (hframe : Heap.Frame (fun _ => True) t.heap t₂.heap)
    (hsince : t.Since HostExchange.Excused t₂) :
    Heap.Frame (fun _ => True) t.heap (Device.releaseBuffer buffer t₂ : HostDevice).heap ∧
      t.Since HostExchange.Excused (Device.releaseBuffer buffer t₂) := by
  obtain ⟨hheap, hreleased⟩ := t₂.releaseBuffer_eq buffer
  refine ⟨?_, hsince.trans (hreleased.mono fun e he => he.1)⟩
  rw [hheap]
  exact hframe.trans_of_imp (t₂.heap.frame_release buffer) fun id hid _ =>
    Nat.ne_of_lt (Nat.lt_of_le_of_lt hid hnew)

/-- What a creation does. -/
theorem create_cases {t : HostDevice} (hpow : ∃ k < 64, t.heap.granule = 2 ^ k)
    (a : BufferAllocator) (usage : BufferUsage) (size : ℤ) (data : Option Bytes)
    (host : HostMemory) :
    (∃ handle r t', a.create usage size data t host =
          (.ok handle, { a with
            records := a.records.insert handle r, nextNumber := a.nextNumber + 1 }, t') ∧
        Created t.heap t'.heap usage size data r ∧
        Heap.Frame (fun _ => True) t.heap t'.heap ∧ t.Since HostExchange.Excused t') ∨
      (∃ fault t', a.create usage size data t host = (.error fault, a, t') ∧
        Heap.Frame (fun _ => True) t.heap t'.heap ∧ t.Since HostExchange.Excused t') := by
  have hcourse := a.create_course usage size data t host
  generalize a.create usage size data t host = out at hcourse ⊢
  cases hcourse with
  | refused => exact .inr ⟨_, t, rfl, .refl _ _, .refl _⟩
  | unallocated hcheck hcall =>
    obtain ⟨hheap, hsince, -⟩ := HostDevice.createBuffer_error hcall
    exact .inr ⟨_, _, rfl, by rw [hheap]; exact .refl _ _, hsince.mono fun e he => he.1⟩
  | unfilled hcheck hcall hfill | unnumbered hcheck hcall hfill =>
    obtain ⟨hnew, hframe, hsince, -⟩ := fill_created hpow hcheck hcall hfill
    obtain ⟨hframe', hsince'⟩ := releaseBuffer_new hnew hframe hsince
    exact .inr ⟨_, _, rfl, hframe', hsince'⟩
  | created hcheck hcall hfill =>
    obtain ⟨-, hframe, hsince, hcreated⟩ := fill_created hpow hcheck hcall hfill
    exact .inl ⟨_, _, _, rfl, hcreated _ rfl, hframe, hsince⟩

end BufferAllocator

end RenderBridge
