import RenderBridge.Proofs.Buffer.Course
import RenderBridge.Proofs.Device.Heap
import RenderBridge.Proofs.Number.Word
/-!
Reservations in the staging ring.

* `StagingRing.Laid`: the ring's buffer has its capacity, and the cursor stands at a whole granule
  inside it.
* `StagingRing.settle_cases`: a reservation in whole granules starts at one and lies inside, also
  where the ring rewinds, wraps or grows, and for granules on either side of 256.
* `StagingRing.reserve_cases`: **a reservation** lies in the ring's buffer, the old one or a new
  one.
-/

set_option autoImplicit false

namespace RenderBridge.StagingRing

/-- A ring whose buffer is there, with the cursor inside. -/
structure Laid (h : Heap) (r : StagingRing) : Prop where
  capacity_lt : r.capacity < Word.range
  granule_dvd : h.granule ∣ r.cursor
  cursor_le : r.cursor ≤ r.capacity
  made : ∀ buffer, r.buffer = some buffer →
    buffer ≤ h.created ∧ (h.contents buffer).size = r.capacity

variable {h h' : Heap} {r : StagingRing}

lemma ofCapacity_laid (capacity : ℕ) : (ofCapacity capacity).Laid h where
  capacity_lt := Word.alignUp_lt_range _ _
  granule_dvd := dvd_zero _
  cursor_le := Nat.zero_le _
  made buffer hbuffer := by cases hbuffer

lemma Laid.frame {kept : BufferId → Prop} (hr : r.Laid h) (hf : Heap.Frame kept h h')
    (hkept : ∀ buffer, r.buffer = some buffer → kept buffer) : r.Laid h' where
  capacity_lt := hr.capacity_lt
  granule_dvd := by
    rw [hf.granule]
    exact hr.granule_dvd
  cursor_le := hr.cursor_le
  made buffer hbuffer := by
    obtain ⟨hmade, hsize⟩ := hr.made buffer hbuffer
    refine ⟨hmade.trans hf.created, ?_⟩
    rw [hf.contents buffer hmade (hkept buffer hbuffer), hsize]

/-- Writing inside buffers leaves a ring laid out. -/
lemma Laid.write (hr : r.Laid h) {id : BufferId} {offset : ℕ} {bytes : Bytes}
    (hfits : h.Fits id offset bytes.size) : r.Laid (h.write id offset bytes) where
  capacity_lt := hr.capacity_lt
  granule_dvd := hr.granule_dvd
  cursor_le := hr.cursor_le
  made buffer hbuffer := by
    rw [Heap.size_contents_write hfits]
    exact hr.made buffer hbuffer

/-! ### Where a reservation lies -/

lemma rewind_laid (hr : r.Laid h) (serial : FrameSerial) : (r.rewind serial).Laid h := by
  rw [rewind]
  split
  · exact hr
  · exact ⟨hr.capacity_lt, dvd_zero _, Nat.zero_le _, hr.made⟩

@[simp]
lemma rewind_buffer (r : StagingRing) (serial : FrameSerial) :
    (r.rewind serial).buffer = r.buffer := by
  rw [rewind]
  split <;> rfl

/-- A ring grows to at least what it is asked for, and gives its buffer up for it. -/
lemma grow_laid (hr : r.Laid h) {length : ℕ} (hlength : length ≤ 2 ^ 56) :
    (r.grow length).Laid h ∧ length ≤ (r.grow length).capacity ∧
      ((r.grow length).buffer = r.buffer ∨ (r.grow length).buffer = none) := by
  rw [grow]
  split
  · have hgrown := Word.grownCapacity_le hlength (by decide)
    have hround : Word.grownCapacity length + (alignment - 1) < Word.range := by
      rw [alignment, Word.range]
      omega
    have hle := (Word.le_grownCapacity length).trans (Word.le_alignUp (by decide) hround)
    refine ⟨⟨Word.alignUp_lt_range _ _, dvd_zero _, Nat.zero_le _, ?_⟩, hle, .inr rfl⟩
    intro buffer hbuffer
    cases hbuffer
  · exact ⟨hr, by omega, .inl rfl⟩

/-- Granules of 256 bytes or less divide the ring's own alignment; larger ones are multiples of it,
and then the cursor stands there already. -/
lemma place_cases (hr : r.Laid h) (hpow : ∃ k < 64, h.granule = 2 ^ k) {length : ℕ}
    (hlength : length ≤ r.capacity) :
    h.granule ∣ r.place length ∧ r.place length + length ≤ r.capacity := by
  rw [place]
  split
  · rename_i hfits
    refine ⟨?_, hfits⟩
    obtain ⟨k, -, hk⟩ := hpow
    have halignment : alignment = 2 ^ 8 := rfl
    rcases Nat.le_total k 8 with hsmall | hlarge
    · have hdvd : h.granule ∣ alignment := by
        rw [hk, halignment]
        exact Nat.pow_dvd_pow 2 hsmall
      exact hdvd.trans (Word.dvd_alignUp _ _)
    · have hdvd : alignment ∣ r.cursor := by
        rw [halignment]
        refine (Nat.pow_dvd_pow 2 hlarge).trans ?_
        rw [← hk]
        exact hr.granule_dvd
      have hround : r.cursor + (alignment - 1) < Word.range := by
        obtain ⟨q, hq⟩ := hdvd
        have hcursor := hr.cursor_le
        have hcapacity := hr.capacity_lt
        rw [Word.range] at hcapacity ⊢
        rw [alignment] at hq ⊢
        omega
      rw [Word.alignUp_of_dvd (by decide) hround hdvd]
      exact hr.granule_dvd
  · exact ⟨dvd_zero _, by omega⟩

/-- Where a reservation of whole granules lies. -/
lemma settle_cases (hr : r.Laid h) (hpow : ∃ k < 64, h.granule = 2 ^ k) {length : ℕ}
    (hdvd : h.granule ∣ length) (hlength : length ≤ 2 ^ 56) (serial : FrameSerial) :
    ∃ offset settled, r.settle length serial = (offset, settled) ∧ settled.Laid h ∧
      h.granule ∣ offset ∧ offset + length ≤ settled.capacity ∧
      (settled.buffer = r.buffer ∨ settled.buffer = none) := by
  obtain ⟨hlaid, hle, hbuffer⟩ := grow_laid (rewind_laid hr serial) hlength
  obtain ⟨hoffset, hfits⟩ := place_cases hlaid hpow hle
  rw [rewind_buffer] at hbuffer
  refine ⟨_, _, rfl, ?_, hoffset, hfits, hbuffer⟩
  exact ⟨hlaid.capacity_lt, (Nat.dvd_add_iff_right hoffset).mp hdvd, hfits, hlaid.made⟩

/-! ### Reservations on a device -/

/-- No call writes. -/
def Silent (e : HostExchange) : Prop := e.request.target = none

/-- Giving the outgrown buffer up touches no other. -/
lemma releaseOutgrown_frame (before after : StagingRing) (t : HostDevice) :
    Heap.Frame (fun id => before.buffer = some id → after.buffer = some id) t.heap
        (releaseOutgrown before after t).heap ∧
      t.Since (fun e => HostExchange.Excused e ∧ Silent e) (releaseOutgrown before after t) := by
  rw [releaseOutgrown]
  split
  · rename_i buffer hbefore hafter
    obtain ⟨hheap, hsince⟩ := t.releaseBuffer_eq buffer
    refine ⟨?_, hsince.mono fun e he => ⟨he.1, by rw [Silent, he.2]; rfl⟩⟩
    rw [hheap]
    refine (t.heap.frame_release buffer).mono ?_
    rintro id - hkept rfl
    rw [hafter] at hkept
    cases hkept hbefore
  · exact ⟨.refl _ _, .refl _⟩

/-- The ring's buffer is there or is made. -/
lemma ensureBuffer_cases {t : HostDevice} (hr : r.Laid t.heap) :
    (∃ buffer ring t', r.ensureBuffer t = (.ok buffer, ring, t') ∧ ring.Laid t'.heap ∧
        ring.buffer = some buffer ∧ ring.capacity = r.capacity ∧
        (r.buffer = some buffer ∨ t.heap.created < buffer) ∧
        Heap.Frame (fun _ => True) t.heap t'.heap ∧
        t.Since (fun e => HostExchange.Excused e ∧ Silent e) t') ∨
      (∃ fault t', r.ensureBuffer t = (.error fault, r, t') ∧ r.buffer = none ∧
        t'.heap = t.heap ∧ t.Since (fun e => HostExchange.Excused e ∧ Silent e) t' ∧
        ¬ HostDevice.Clean t') := by
  have hcourse := r.ensureBuffer_course t
  generalize r.ensureBuffer t = out at hcourse ⊢
  cases hcourse with
  | held hbuffer => exact .inl ⟨_, r, t, rfl, hr, hbuffer, rfl, .inl hbuffer, .refl _ _, .refl _⟩
  | refused hnone hcall =>
    obtain ⟨hheap, hsince, hclean⟩ := HostDevice.createBuffer_error hcall
    exact .inr ⟨_, _, rfl, hnone, hheap,
      hsince.mono fun e he => ⟨he.1, by rw [Silent, he.2]; rfl⟩, hclean⟩
  | made hnone hcall =>
    obtain ⟨rfl, -, hheap, hsince⟩ := HostDevice.createBuffer_ok hcall
    have hframe := t.heap.frame_allocate r.capacity
    rw [← hheap] at hframe
    have hlaid := hr.frame hframe fun _ _ => trivial
    refine .inl ⟨_, _, _, rfl, ?_, rfl, rfl, .inr (Nat.lt_succ_self _), hframe,
      hsince.mono fun e he => ⟨he.1, by rw [Silent, he.2]; rfl⟩⟩
    refine ⟨hlaid.capacity_lt, hlaid.granule_dvd, hlaid.cursor_le, ?_⟩
    intro buffer hsome
    cases hsome
    rw [hheap, Heap.contents_allocate, if_pos rfl, Bytes.size_zeros]
    exact ⟨le_rfl, rfl⟩

/-- A reservation of whole granules lies in the ring's buffer, which is the old one or made on the
spot, or the buffer cannot be made. No other buffer is touched. -/
theorem reserve_cases {t : HostDevice} (hr : r.Laid t.heap)
    (hpow : ∃ k < 64, t.heap.granule = 2 ^ k) {length : ℕ} (hdvd : t.heap.granule ∣ length)
    (hlength : length ≤ 2 ^ 56) (serial : FrameSerial) :
    (∃ staging offset ring t', r.reserve length serial t = (.ok (staging, offset), ring, t') ∧
        ring.Laid t'.heap ∧ ring.buffer = some staging ∧
        (r.buffer = some staging ∨ t.heap.created < staging) ∧
        t'.heap.Fits staging offset length ∧
        Heap.Frame (fun id => r.buffer ≠ some id) t.heap t'.heap ∧
        t.Since (fun e => HostExchange.Excused e ∧ Silent e) t') ∨
      (∃ fault ring t', r.reserve length serial t = (.error fault, ring, t') ∧
        ring.Laid t'.heap ∧ ring.buffer = none ∧
        Heap.Frame (fun id => r.buffer ≠ some id) t.heap t'.heap ∧
        t.Since (fun e => HostExchange.Excused e ∧ Silent e) t' ∧ ¬ HostDevice.Clean t') := by
  obtain ⟨offset, settled, hsettle, hlaid, hoffset, hfits, hbuffer⟩ :=
    settle_cases hr hpow hdvd hlength serial
  obtain ⟨hframe₁, hsince₁⟩ := releaseOutgrown_frame r settled t
  have hlaid₁ : settled.Laid (releaseOutgrown r settled t).heap :=
    hlaid.frame hframe₁ fun _ hsome _ => hsome
  have hkept : Heap.Frame (fun id => r.buffer ≠ some id) t.heap
      (releaseOutgrown r settled t).heap :=
    hframe₁.mono fun _ _ hne hsome => absurd hsome hne
  rw [reserve, hsettle]
  dsimp only
  rcases ensureBuffer_cases hlaid₁ with
    ⟨staging, ring, t', hcall, hring, hstaging, hcapacity, hwhich, hframe, hsince⟩ |
      ⟨fault, t', hcall, hnone, hheap, hsince, hclean⟩
  · rw [hcall]
    have hall := hkept.trans (hframe.mono fun _ _ _ => trivial)
    refine .inl ⟨staging, offset, ring, t', rfl, hring, hstaging, ?_, ?_, hall,
      hsince₁.trans hsince⟩
    · rcases hwhich with hold | hnew
      · rcases hbuffer with hsame | hgone
        · exact .inl (hsame.symm.trans hold)
        · rw [hgone] at hold
          cases hold
      · exact .inr (lt_of_le_of_lt hkept.created hnew)
    · refine ⟨?_, ?_, ?_⟩
      · rw [hall.granule]
        exact hoffset
      · rw [hall.granule]
        exact hdvd
      · rw [(hring.made staging hstaging).2, hcapacity]
        exact hfits
  · rw [hcall]
    refine .inr ⟨fault, settled, t', rfl, ?_, hnone, ?_, hsince₁.trans hsince, hclean⟩
    · rw [hheap]
      exact hlaid₁
    · rw [hheap]
      exact hkept

end RenderBridge.StagingRing
