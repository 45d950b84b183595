import RenderBridge.Proofs.Buffer.Create
import RenderBridge.Proofs.Buffer.Ring
/-!
Updating and ending buffers on a device in host memory.

* `BufferAllocator.Laid`: every buffer lies in an allocation of its own, apart from the ring's.
* `BufferAllocator.uploadStaged_uploaded`: an upload through the staging ring.
* `BufferAllocator.update_cases`: **an accepted update** writes what was meant into the slot of the
  frame and nothing outside it, unless the device fails.
-/

set_option autoImplicit false

namespace RenderBridge.BufferAllocator

/-- Every buffer lies in an allocation of its own, and so does the ring. -/
structure Laid (h : Heap) (a : BufferAllocator) : Prop where
  granule_pow : ∃ k < 64, h.granule = 2 ^ k
  record : ∀ handle r, a.records.get? handle = some r → r.Laid h
  distinct : ∀ handle handle' r r', a.records.get? handle = some r →
    a.records.get? handle' = some r' → r.buffer = r'.buffer → handle = handle'
  ring : a.ring.Laid h
  apart : ∀ staging, a.ring.buffer = some staging →
    ∀ handle r, a.records.get? handle = some r → r.buffer ≠ staging

/-! ### Through the staging ring -/

/-- The buffers that updating one may touch: that one, the ring's, and new ones. A call writes to
an older buffer only inside the range from `start` to `stop` of the one. -/
def Within (h : Heap) (ring : StagingRing) (buffer : BufferId) (start stop : ℕ)
    (request : HostRequest) : Prop :=
  ∀ id offset length, request.target = some (id, offset, length) → id ≤ h.created →
    ring.buffer ≠ some id → id = buffer ∧ start ≤ offset ∧ offset + length ≤ stop

/-- What sending an upload for a range of a buffer does to the buffer, the ring and the device. -/
structure Uploaded (t t' : HostDevice) (ring ring' : StagingRing) (buffer : BufferId)
    (upload : Upload) (start stop : ℕ) (answer : Except Fault Unit) : Prop where
  ring_laid : ring'.Laid t'.heap
  ring_buffer : ∀ staging, ring'.buffer = some staging →
    ring.buffer = some staging ∨ t.heap.created < staging
  frame : Heap.Frame (fun id => id ≠ buffer ∧ ring.buffer ≠ some id) t.heap t'.heap
  since : t.Since
    (fun e => HostExchange.Excused e ∧ Within t.heap ring buffer start stop e.request) t'
  answered : (answer = .ok () ∧ t'.heap.contents buffer =
      (t.heap.contents buffer).overwrite upload.offset upload.bytes) ∨
    ((∃ fault, answer = .error fault) ∧
      t'.heap.contents buffer = t.heap.contents buffer ∧ ¬ HostDevice.Clean t')

section

variable {t t' : HostDevice} {ring : StagingRing} {buffer : BufferId} {upload : Upload}
  {start stop : ℕ}

/-- An upload that is written to its buffer directly. -/
lemma uploaded_of_write (hring : ring.Laid t.heap)
    (hfits : t.heap.Fits buffer upload.offset upload.bytes.size) (hstart : start ≤ upload.offset)
    (hstop : upload.offset + upload.bytes.size ≤ stop)
    (hwrite : Device.writeBuffer buffer upload.offset upload.bytes t = (.ok (), t')) :
    Uploaded t t' ring ring buffer upload start stop (.ok ()) := by
  obtain ⟨hheap, hsince⟩ := HostDevice.writeBuffer_ok hwrite
  refine ⟨?_, fun _ h => .inl h, ?_, hsince.mono ?_, .inl ⟨rfl, ?_⟩⟩
  · rw [hheap]
    exact hring.write hfits
  · rw [hheap]
    exact (t.heap.frame_write _ _ _).mono fun _ _ hkept => hkept.1
  · rintro e ⟨hexcused, hrequest⟩
    rw [hrequest]
    refine ⟨hexcused, ?_⟩
    rintro id off len ⟨⟩ - -
    exact ⟨rfl, hstart, hstop⟩
  · rw [hheap, Heap.contents_write, if_pos rfl]

/-- An upload whose direct write is refused. -/
lemma uploaded_of_refused (hring : ring.Laid t.heap)
    (hfits : t.heap.Fits buffer upload.offset upload.bytes.size) (hstart : start ≤ upload.offset)
    (hstop : upload.offset + upload.bytes.size ≤ stop) {fault : DeviceFault}
    (hwrite : Device.writeBuffer buffer upload.offset upload.bytes t = (.error fault, t')) :
    Uploaded t t' ring ring buffer upload start stop (.error (.ofDevice fault)) := by
  obtain ⟨hheap, hsince, hclean⟩ := HostDevice.writeBuffer_error hfits hwrite
  refine ⟨?_, fun _ h => .inl h, ?_, hsince.mono ?_, .inr ⟨⟨_, rfl⟩, by rw [hheap], hclean⟩⟩
  · rw [hheap]
    exact hring
  · rw [hheap]
    exact .refl _ _
  · rintro e ⟨hexcused, hrequest⟩
    rw [hrequest]
    refine ⟨hexcused, ?_⟩
    rintro id off len ⟨⟩ - -
    exact ⟨rfl, hstart, hstop⟩

end

/-- Room in the ring's buffer, which is the old one or made later than all others. -/
structure Reserved (h h' : Heap) (ring ring' : StagingRing) (staging : BufferId)
    (offset length : ℕ) : Prop where
  laid : ring'.Laid h'
  buffer_eq : ring'.buffer = some staging
  old_or_new : ring.buffer = some staging ∨ h.created < staging
  fits : h'.Fits staging offset length
  frame : Heap.Frame (fun id => ring.buffer ≠ some id) h h'

namespace Reserved

variable {h h' h'' : Heap} {ring ring' : StagingRing} {staging buffer : BufferId} {offset : ℕ}
  {bytes : Bytes}

/-- The staging buffer is none of the older buffers apart from the ring's own. -/
lemma ne (hr : Reserved h h' ring ring' staging offset bytes.size) {id : BufferId}
    (hid : id ≤ h.created) (hne : ring.buffer ≠ some id) : id ≠ staging := by
  rintro rfl
  rcases hr.old_or_new with hold | hnew
  · exact hne hold
  · exact absurd hid (Nat.not_le_of_lt hnew)

lemma ring_buffer (hr : Reserved h h' ring ring' staging offset bytes.size) :
    ∀ id, ring'.buffer = some id → ring.buffer = some id ∨ h.created < id := by
  intro id hid
  cases hr.buffer_eq.symm.trans hid
  exact hr.old_or_new

/-- Writing there leaves the room as it is. -/
lemma write (hr : Reserved h h' ring ring' staging offset bytes.size) :
    Reserved h (h'.write staging offset bytes) ring ring' staging offset bytes.size where
  laid := hr.laid.write hr.fits
  buffer_eq := hr.buffer_eq
  old_or_new := hr.old_or_new
  fits := hr.fits.write hr.fits
  frame := hr.frame.trans_of_imp (h'.frame_write staging offset bytes) fun _ => hr.ne

lemma staged (hr : Reserved h h' ring ring' staging offset bytes.size) :
    ((h'.write staging offset bytes).contents staging).slice offset bytes.size = bytes := by
  rw [Heap.contents_write, if_pos rfl]
  exact Bytes.slice_overwrite_self hr.fits.inside

end Reserved

section

variable {t t' : HostDevice} {ring ring' : StagingRing} {staging buffer : BufferId}
  {upload : Upload} {start stop offset : ℕ}

/-- An upload that gets no further than the staging buffer. -/
lemma Reserved.unsent
    (hr : Reserved t.heap t'.heap ring ring' staging offset upload.bytes.size)
    (hmade : buffer ≤ t.heap.created) (hapart : ring.buffer ≠ some buffer)
    (hsince : t.Since
      (fun e => HostExchange.Excused e ∧ Within t.heap ring buffer start stop e.request) t')
    (hclean : ¬ HostDevice.Clean t') (fault : Fault) :
    Uploaded t t' ring ring' buffer upload start stop (.error fault) where
  ring_laid := hr.laid
  ring_buffer := hr.ring_buffer
  frame := hr.frame.mono fun _ _ hkept => hkept.2
  since := hsince
  answered := .inr ⟨⟨fault, rfl⟩, hr.frame.contents buffer hmade hapart, hclean⟩

/-- An upload that is copied out of the staging buffer. -/
lemma Reserved.sent {h : Heap}
    (hr : Reserved t.heap h ring ring' staging offset upload.bytes.size)
    (hmade : buffer ≤ t.heap.created) (hapart : ring.buffer ≠ some buffer)
    (hfits : h.Fits buffer upload.offset upload.bytes.size)
    (hheap : t'.heap = h.write buffer upload.offset upload.bytes)
    (hsince : t.Since
      (fun e => HostExchange.Excused e ∧ Within t.heap ring buffer start stop e.request) t') :
    Uploaded t t' ring ring' buffer upload start stop (.ok ()) where
  ring_laid := by
    rw [hheap]
    exact hr.laid.write hfits
  ring_buffer := hr.ring_buffer
  frame := by
    rw [hheap]
    exact (hr.frame.mono fun _ _ hkept => hkept.2).trans_of_imp
      (h.frame_write buffer upload.offset upload.bytes) fun _ _ hkept => hkept.1
  since := hsince
  answered := by
    rw [hheap, Heap.contents_write, if_pos rfl, hr.frame.contents buffer hmade hapart]
    exact .inl ⟨rfl, rfl⟩

/-- Sending an upload for a range of a buffer through the ring. -/
lemma uploadStaged_uploaded (hring : ring.Laid t.heap) (hpow : ∃ k < 64, t.heap.granule = 2 ^ k)
    (hmade : buffer ≤ t.heap.created) (hapart : ring.buffer ≠ some buffer)
    (hfits : t.heap.Fits buffer upload.offset upload.bytes.size)
    (hlength : upload.bytes.size ≤ 2 ^ 56) (hstart : start ≤ upload.offset)
    (hstop : upload.offset + upload.bytes.size ≤ stop) {serial : FrameSerial}
    {answer : Except Fault Unit}
    (hsend : uploadStaged ring buffer upload serial t = (answer, ring', t')) :
    Uploaded t t' ring ring' buffer upload start stop answer := by
  have hwithin : ∀ e : HostExchange, HostExchange.Excused e ∧ StagingRing.Silent e →
      HostExchange.Excused e ∧ Within t.heap ring buffer start stop e.request := by
    rintro e ⟨hexcused, hsilent⟩
    refine ⟨hexcused, fun id offset length htarget => ?_⟩
    cases hsilent.symm.trans htarget
  have hcourse := uploadStaged_course ring buffer upload serial t
  rw [hsend] at hcourse
  rcases StagingRing.reserve_cases hring hpow hfits.length_dvd hlength serial with
    ⟨staging, offset, ring₁, t₁, hreserve, hlaid₁, hbuffer₁, hwhich, hfits₁, hframe₁, hsince₁⟩ |
      ⟨fault, ring₁, t₁, hreserve, hlaid₁, hnone, hframe₁, hsince₁, hclean⟩
  · have hr : Reserved t.heap t₁.heap ring ring₁ staging offset upload.bytes.size :=
      ⟨hlaid₁, hbuffer₁, hwhich, hfits₁, hframe₁⟩
    have hstaging : ∀ e : HostExchange, HostExchange.Excused e ∧
        e.request = .writeBuffer staging offset upload.bytes →
          HostExchange.Excused e ∧ Within t.heap ring buffer start stop e.request := by
      rintro e ⟨hexcused, hrequest⟩
      rw [hrequest]
      refine ⟨hexcused, ?_⟩
      rintro id off len ⟨⟩ hid hne
      exact absurd rfl (hr.ne hid hne)
    have hcopied : ∀ e : HostExchange, HostExchange.Excused e ∧
        e.request = .copyBuffer staging offset buffer upload.offset upload.bytes.size →
          HostExchange.Excused e ∧ Within t.heap ring buffer start stop e.request := by
      rintro e ⟨hexcused, hrequest⟩
      rw [hrequest]
      refine ⟨hexcused, ?_⟩
      rintro id off len ⟨⟩ - -
      exact ⟨rfl, hstart, hstop⟩
    have hfitsBuffer : t₁.heap.Fits buffer upload.offset upload.bytes.size :=
      hfits.frame hframe₁ hmade hapart
    cases hcourse with
    | unreserved hfailed => cases hfailed.symm.trans hreserve
    | unwritten hreserved hwrite =>
      cases hreserved.symm.trans hreserve
      obtain ⟨hheap, hsince₂, hclean⟩ := HostDevice.writeBuffer_error hfits₁ hwrite
      rw [← hheap] at hr
      exact hr.unsent hmade hapart ((hsince₁.mono hwithin).trans (hsince₂.mono hstaging)) hclean _
    | uncopied hreserved hwrite hcopy =>
      cases hreserved.symm.trans hreserve
      obtain ⟨hheap₂, hsince₂⟩ := HostDevice.writeBuffer_ok hwrite
      have hr₂ := hr.write
      have hfits₂ := hr.fits.write hfitsBuffer
      rw [← hheap₂] at hr₂ hfits₂
      obtain ⟨hheap₃, hsince₃, hclean⟩ := HostDevice.copyBuffer_error hr₂.fits hfits₂ hcopy
      rw [← hheap₃] at hr₂
      exact hr₂.unsent hmade hapart (((hsince₁.mono hwithin).trans (hsince₂.mono hstaging)).trans
        (hsince₃.mono hcopied)) hclean _
    | sent hreserved hwrite hcopy =>
      cases hreserved.symm.trans hreserve
      obtain ⟨hheap₂, hsince₂⟩ := HostDevice.writeBuffer_ok hwrite
      obtain ⟨hheap₃, hsince₃⟩ := HostDevice.copyBuffer_ok hcopy
      rw [hheap₂, hr.staged] at hheap₃
      exact hr.write.sent hmade hapart (hr.fits.write hfitsBuffer) hheap₃
        (((hsince₁.mono hwithin).trans (hsince₂.mono hstaging)).trans (hsince₃.mono hcopied))
  · cases hcourse with
    | unreserved hfailed =>
      cases hfailed.symm.trans hreserve
      refine ⟨hlaid₁, fun staging hsome => ?_, hframe₁.mono fun id _ hkept => hkept.2,
        hsince₁.mono hwithin, .inr ⟨⟨_, rfl⟩, hframe₁.contents buffer hmade hapart, hclean⟩⟩
      cases hnone.symm.trans hsome
    | unwritten hreserved | uncopied hreserved | sent hreserved =>
      cases hreserved.symm.trans hreserve

end

/-! ### Updating -/

/-- What is staged for a buffer and what the buffer holds then: the upload where it succeeds, what
it held before where it fails. -/
def Sent (t t' : HostDevice) (r r' : BufferRecord) (offset : ℕ) (payload : Bytes)
    (answer : Except Fault Unit) : Prop :=
  ∃ upload, r.stage offset payload t.heap.granule = (upload, r') ∧
    ((answer = .ok () ∧ t'.heap.contents r.buffer =
        (t.heap.contents r.buffer).overwrite upload.offset upload.bytes) ∨
      ((∃ fault, answer = .error fault) ∧
        t'.heap.contents r.buffer = t.heap.contents r.buffer))

/-- What an accepted update of a buffer makes of the buffer, the ring and the device. -/
structure Updated (t t' : HostDevice) (ring ring' : StagingRing) (r r' : BufferRecord)
    (serial : FrameSerial) (offset : ℕ) (payload : Bytes) (answer : Except Fault Unit) :
    Prop where
  record : r' = { r with shadow := r'.shadow }
  laid : r'.Laid t'.heap
  ring_laid : ring'.Laid t'.heap
  ring_buffer : ∀ staging, ring'.buffer = some staging →
    ring.buffer = some staging ∨ t.heap.created < staging
  frame : Heap.Frame (fun id => id ≠ r.buffer ∧ ring.buffer ≠ some id) t.heap t'.heap
  since : t.Since (fun e => HostExchange.Excused e ∧ Within t.heap ring r.buffer
    (r.activeOffset serial) (r.activeOffset serial + r.slotSize) e.request) t'
  answered : (answer = .ok () ∧ (r.Mirrored t.heap → r'.Mirrored t'.heap ∧
      t'.heap.contents r.buffer =
        (t.heap.contents r.buffer).overwrite (r.activeOffset serial + offset) payload)) ∨
    ((∃ fault, answer = .error fault) ∧ ¬ HostDevice.Clean t')
  sent : Sent t t' r r' (r.activeOffset serial + offset) payload answer

/-- A staged upload that is written, or is not, updates the record. -/
lemma updated_of_staged {t t' : HostDevice} {ring ring' : StagingRing} {r r' : BufferRecord}
    {serial : FrameSerial} {offset : ℕ} {payload : Bytes} {upload : Upload}
    {answer : Except Fault Unit}
    (hstage : r.stage (r.activeOffset serial + offset) payload t.heap.granule = (upload, r'))
    (hstaged : BufferRecord.Staged t.heap r r' (r.activeOffset serial + offset) payload upload)
    (hfits : t.heap.Fits r.buffer upload.offset upload.bytes.size)
    (huploaded : Uploaded t t' ring ring' r.buffer upload (r.activeOffset serial)
      (r.activeOffset serial + r.slotSize) answer) :
    Updated t t' ring ring' r r' serial offset payload answer := by
  obtain ⟨hring, hbuffer, hframe, hsince, hanswer⟩ := huploaded
  have hsame : r'.buffer = r.buffer := by rw [hstaged.record]
  rcases hanswer with ⟨hok, hcontents⟩ | ⟨herror, hcontents, hclean⟩
  · obtain ⟨hlaid, hwritten⟩ := hstaged.written hfits hframe hcontents
    exact ⟨hstaged.record, hlaid, hring, hbuffer, hframe, hsince, .inl ⟨hok, hwritten⟩,
      upload, hstage, .inl ⟨hok, hcontents⟩⟩
  · have hlaid : r'.Laid t'.heap := by
      refine hstaged.laid.resized hframe ?_
      rw [hsame, hcontents]
    exact ⟨hstaged.record, hlaid, hring, hbuffer, hframe, hsince, .inr ⟨herror, hclean⟩,
      upload, hstage, .inr ⟨herror, hcontents⟩⟩

/-- What the upload that an accepted update stages is like. -/
lemma Stage.staged {a : BufferAllocator} {h : Heap} {handle : BufferHandle} {offset length : ℤ}
    {data : Option Bytes} {serial : FrameSerial} {r r' : BufferRecord} {payload : Bytes}
    {upload : Upload} (ha : a.Laid h)
    (hs : a.Stage handle offset data length serial h.granule r r' payload upload) :
    BufferRecord.Staged h r r' (r.activeOffset serial + offset.toNat) payload upload ∧
      h.Fits r.buffer upload.offset upload.bytes.size ∧ r.activeOffset serial ≤ upload.offset ∧
      upload.offset + upload.bytes.size ≤ r.activeOffset serial + r.slotSize ∧
      upload.bytes.size ≤ 2 ^ 56 ∧ a.ring.buffer ≠ some r.buffer := by
  have hr := ha.record handle r hs.asked.live
  have hslot := r.activeSlot_lt serial
  have hend := BufferRecord.slotOffset_add_le hslot
  have hsize := hr.size_le
  have hinside := hs.asked.inside
  have hactive : r.activeOffset serial = r.slotOffset (r.activeSlot serial) := rfl
  obtain ⟨upload', r'', hstage, hstaged⟩ := BufferRecord.stage_cases hr
    (show r.activeOffset serial + offset.toNat + payload.size ≤ r.total by omega)
  cases hstage.symm.trans hs.stage_eq
  obtain ⟨⟨hstart, hstop⟩, hfits⟩ := hstaged.fits hr hslot (by omega) (by omega)
  have htotal := hr.total_lt
  have hin := hfits.inside
  rw [hr.contents_size] at hin
  exact ⟨hstaged, hfits, hstart, hstop, by omega, fun hring =>
    ha.apart r.buffer hring handle r hs.asked.live rfl⟩

/-- What an update does. One that is refused, and one of no bytes, change nothing. -/
theorem update_cases {a : BufferAllocator} {t : HostDevice} (ha : a.Laid t.heap)
    (handle : BufferHandle) (offset : ℤ) (data : Option Bytes) (length : ℤ)
    (serial : FrameSerial) :
    (∃ fault, a.update handle offset data length serial t = (.error fault, a, t) ∧
        ¬ a.Accepts handle offset data length) ∨
      (a.update handle offset data length serial t = (.ok (), a, t) ∧ length = 0 ∧
        a.Accepts handle offset data length) ∨
      (∃ r r' payload ring' t' answer, length ≠ 0 ∧ a.Accepts handle offset data length ∧
        a.Asked handle offset data length r payload ∧
        a.update handle offset data length serial t =
          (answer, { a with records := a.records.insert handle r', ring := ring' }, t') ∧
        Updated t t' a.ring ring' r r' serial offset.toNat payload answer) := by
  have hcourse := a.update_course handle offset data length serial t
  generalize a.update handle offset data length serial t = out at hcourse ⊢
  cases hcourse with
  | refused hcheck hnot => exact .inl ⟨_, rfl, hnot⟩
  | empty haccepts hzero => exact .inr (.inl ⟨rfl, hzero, haccepts⟩)
  | unwritten hs husage hwrite =>
    rw [granule_eq] at hs
    obtain ⟨hstaged, hfits, hstart, hstop, -, -⟩ := hs.staged ha
    rw [hs.buffer_eq] at hwrite
    exact .inr (.inr ⟨_, _, _, a.ring, _, _, hs.length_ne, hs.accepts, hs.asked, rfl,
      updated_of_staged hs.stage_eq hstaged hfits
        (uploaded_of_refused ha.ring hfits hstart hstop hwrite)⟩)
  | written hs husage hwrite =>
    rw [granule_eq] at hs
    obtain ⟨hstaged, hfits, hstart, hstop, -, -⟩ := hs.staged ha
    rw [hs.buffer_eq] at hwrite
    exact .inr (.inr ⟨_, _, _, a.ring, _, _, hs.length_ne, hs.accepts, hs.asked, rfl,
      updated_of_staged hs.stage_eq hstaged hfits
        (uploaded_of_write ha.ring hfits hstart hstop hwrite)⟩)
  | staged hs husage hsend =>
    rw [granule_eq] at hs
    obtain ⟨hstaged, hfits, hstart, hstop, hlength, hapart⟩ := hs.staged ha
    rw [hs.buffer_eq] at hsend
    have hmade := (ha.record handle _ hs.asked.live).made
    exact .inr (.inr ⟨_, _, _, _, _, _, hs.length_ne, hs.accepts, hs.asked, rfl,
      updated_of_staged hs.stage_eq hstaged hfits (uploadStaged_uploaded ha.ring ha.granule_pow
        hmade hapart hfits hlength hstart hstop hsend)⟩)

end RenderBridge.BufferAllocator
