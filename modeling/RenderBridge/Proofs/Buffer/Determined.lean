import RenderBridge.Device.Memory
import RenderBridge.Proofs.Buffer.Course
/-!
What decides whether a buffer is made on a device in host memory.

* `MemoryDevice.SameRoom`: two buffers, each on its device, with as many bytes in equal granules.
* `BufferAllocator.writeSlots_sameRoom`, `fill_sameRoom`: filling such buffers goes alike.
* `BufferAllocator.create_determined`: **the answer to a request for a buffer** depends on the
  request, the alignment and the number of the next buffer; not on what was made or written before.
* `BufferAllocator.create_answers`: what a creation makes of the allocator, by its answer.
-/

set_option autoImplicit false

namespace RenderBridge

/-! ### Buffers with the same room -/

namespace MemoryDevice

/-- Two buffers, each on its device, with as many bytes; the devices copy in equal granules. -/
structure SameRoom (id id' : BufferId) (d d' : MemoryDevice) : Prop where
  alignment : d'.alignment = d.alignment
  size : (d'.contents id').size = (d.contents id).size

variable {id id' : BufferId} {d d' : MemoryDevice}

/-- A range that passes the check lies inside the buffer. -/
lemma le_of_checkRange {size offset length : ℕ} (h : checkRange size offset length = .ok ()) :
    offset + length ≤ size := by
  by_contra houtside
  rw [checkRange, if_neg houtside] at h
  cases h

/-- Whether there is room for a new buffer depends on its size only. -/
lemma createBuffer_cases (size : ℕ) :
    (∃ fault, ∀ d, createBuffer size d = (.error fault, d)) ∨
      (∀ d, ∃ d₁, createBuffer size d = (.ok (d.created + 1), d₁) ∧
        d₁.alignment = d.alignment ∧ (d₁.contents (d.created + 1)).size = size) := by
  cases hroom : HostRoom.of size with
  | granted =>
    refine .inr fun d => ⟨{ d with
      created := d.created + 1
      buffers := d.buffers.insert (d.created + 1) (Bytes.zeros size) }, ?_, rfl, ?_⟩
    · rw [createBuffer, hroom]
    · rw [contents, Table.get?_insert, if_pos rfl, Option.getD_some, Bytes.size_zeros]
  | tooLong => exact .inl ⟨_, fun d => by rw [createBuffer, hroom]⟩
  | exhausted => exact .inl ⟨_, fun d => by rw [createBuffer, hroom]⟩

/-- A write into either of two such buffers has one answer, and leaves them so. -/
lemma SameRoom.writeBuffer (h : SameRoom id id' d d') (offset : ℕ) (bytes : Bytes) :
    (MemoryDevice.writeBuffer id' offset bytes d').1 =
        (MemoryDevice.writeBuffer id offset bytes d).1 ∧
      SameRoom id id' (MemoryDevice.writeBuffer id offset bytes d).2
        (MemoryDevice.writeBuffer id' offset bytes d').2 := by
  have hgranule : checkGranule d'.alignment offset bytes.size =
      checkGranule d.alignment offset bytes.size := by rw [h.alignment]
  have hrange : checkRange (d'.contents id').size offset bytes.size =
      checkRange (d.contents id).size offset bytes.size := by rw [h.size]
  rw [MemoryDevice.writeBuffer, MemoryDevice.writeBuffer, hgranule, hrange]
  cases checkGranule d.alignment offset bytes.size with
  | error fault => exact ⟨rfl, h⟩
  | ok _ =>
    cases hinside : checkRange (d.contents id).size offset bytes.size with
    | error fault => exact ⟨rfl, h⟩
    | ok _ =>
      have hle := le_of_checkRange hinside
      have hle' : offset + bytes.size ≤ (d'.contents id').size := by rw [h.size]; exact hle
      refine ⟨rfl, h.alignment, ?_⟩
      change (((d'.buffers.insert id' ((d'.contents id').overwrite offset bytes)).get? id').getD
        #[]).size = (((d.buffers.insert id ((d.contents id).overwrite offset bytes)).get? id).getD
        #[]).size
      rw [Table.get?_insert, if_pos rfl, Table.get?_insert, if_pos rfl, Option.getD_some,
        Option.getD_some, Bytes.size_overwrite hle, Bytes.size_overwrite hle', h.size]

end MemoryDevice

/-! ### Filling -/

/-- The record over another device buffer. -/
def BufferRecord.over (buffer : BufferId) (r : BufferRecord) : BufferRecord := { r with buffer }

/-- An upload does not depend on the device buffer that it is for. -/
lemma BufferRecord.stage_over (r : BufferRecord) (buffer : BufferId) (offset : ℕ) (bytes : Bytes)
    (granule : ℕ) :
    (r.over buffer).stage offset bytes granule =
        ((r.stage offset bytes granule).1, (r.stage offset bytes granule).2.over buffer) ∧
      (r.stage offset bytes granule).2.buffer = r.buffer := by
  obtain ⟨usage, size, slotSize, _, shadow⟩ := r
  cases shadow <;> exact ⟨rfl, rfl⟩

namespace BufferAllocator

variable {r : BufferRecord} {buffer : BufferId} {d d' : MemoryDevice}

lemma granule_sameRoom {id : BufferId} (h : MemoryDevice.SameRoom id buffer d d') :
    granule d' = granule d := by
  change max (max d'.alignment 1) 1 = max (max d.alignment 1) 1
  rw [h.alignment]

/-- Slots of buffers with the same room are written alike. -/
lemma writeSlots_sameRoom (bytes : Bytes) (slots : List ℕ)
    (h : MemoryDevice.SameRoom r.buffer buffer d d') :
    (writeSlots bytes slots (r.over buffer) d').1 =
      (writeSlots bytes slots r d).1.map (·.over buffer) := by
  induction slots generalizing r d d' with
  | nil => rfl
  | cons slot rest ih =>
    obtain ⟨hstage, hbuffer⟩ := r.stage_over buffer (r.slotOffset slot) bytes (granule d)
    have hoffset : (r.over buffer).slotOffset slot = r.slotOffset slot := rfl
    rw [writeSlots, writeSlots, granule_sameRoom h, hoffset, hstage]
    generalize r.stage (r.slotOffset slot) bytes (granule d) = staged at hbuffer ⊢
    obtain ⟨upload, r₁⟩ := staged
    dsimp only at hbuffer ⊢
    rw [← hbuffer] at h
    obtain ⟨hanswer, hafter⟩ := h.writeBuffer upload.offset upload.bytes
    change (Device.writeBuffer buffer upload.offset upload.bytes d').1 =
      (Device.writeBuffer r₁.buffer upload.offset upload.bytes d).1 at hanswer
    change MemoryDevice.SameRoom r₁.buffer buffer
      (Device.writeBuffer r₁.buffer upload.offset upload.bytes d).2
      (Device.writeBuffer buffer upload.offset upload.bytes d').2 at hafter
    have hover : (r₁.over buffer).buffer = buffer := rfl
    rw [hover]
    rcases hcall : Device.writeBuffer r₁.buffer upload.offset upload.bytes d with ⟨answer, d₁⟩
    rcases hcall' : Device.writeBuffer buffer upload.offset upload.bytes d' with ⟨answer', d₁'⟩
    rw [hcall, hcall'] at hanswer hafter
    obtain rfl : answer' = answer := hanswer
    cases answer' with
    | ok _ => exact ih hafter
    | error fault => rfl

/-- Buffers with the same room are filled alike. -/
lemma fill_sameRoom (host : HostMemory) (data : Option Bytes)
    (h : MemoryDevice.SameRoom r.buffer buffer d d') :
    (fill host (r.over buffer) data d').1 = (fill host r data d).1.map (·.over buffer) := by
  have htotal : (r.over buffer).total = r.total := rfl
  rw [fill, fill, granule_sameRoom h, htotal]
  cases newShadow host (granule d) r.total with
  | error fault => rfl
  | ok shadow =>
    dsimp only
    cases data with
    | none => rfl
    | some bytes =>
      dsimp only
      split
      · rfl
      · exact writeSlots_sameRoom (r := { r with shadow }) bytes _ h

/-! ### Creating -/

section

variable {δ P D : Type} [Device δ P D]

/-- A buffer is taken in under the next number, or the allocator stays as it is. -/
lemma create_answers (a : BufferAllocator) (usage : BufferUsage) (size : ℤ) (data : Option Bytes)
    (d : δ) (host : HostMemory) :
    (∀ handle, (a.create usage size data d host).1 = .ok handle →
        ∃ r, (a.create usage size data d host).2.1 = { a with
          records := a.records.insert handle r, nextNumber := a.nextNumber + 1 }) ∧
      ∀ fault, (a.create usage size data d host).1 = .error fault →
        (a.create usage size data d host).2.1 = a := by
  have hcourse := a.create_course usage size data d host
  generalize a.create usage size data d host = out at hcourse ⊢
  cases hcourse with
  | @created _ _ r =>
    refine ⟨fun handle h => ⟨r, ?_⟩, fun fault h => by cases h⟩
    cases h
    rfl
  | _ => exact ⟨fun handle h => (by cases h), fun fault _ => rfl⟩

end

/-- The answer to a request for a buffer depends on the request, the alignment, what host memory has
left and the number of the next buffer. -/
theorem create_determined {a a' : BufferAllocator} (hnext : a'.nextNumber = a.nextNumber)
    (halignment : d'.alignment = d.alignment) (usage : BufferUsage) (size : ℤ)
    (data : Option Bytes) (host : HostMemory) :
    (a'.create usage size data d' host).1 = (a.create usage size data d host).1 := by
  have hgranule : granule d' = granule d := by
    change max (max d'.alignment 1) 1 = max (max d.alignment 1) 1
    rw [halignment]
  have hissue : ∀ r r' : BufferRecord, (a'.issue r').1 = (a.issue r).1 := by
    intro r r'
    rw [issue, issue, hnext]
    cases BufferHandle.nth? a.nextNumber <;> rfl
  rw [create, create, hgranule]
  cases checkCreate usage size data (granule d) with
  | error fault => rfl
  | ok slotSize =>
    dsimp only
    rcases MemoryDevice.createBuffer_cases (slotSize * usage.slotCount) with
      ⟨fault, hrefused⟩ | hmade
    · change ∀ d, Device.createBuffer _ (a.nextLabel usage) d = _ at hrefused
      rw [hrefused d]
      change ∀ d, Device.createBuffer _ (a'.nextLabel usage) d = _ at hrefused
      rw [hrefused d']
    · obtain ⟨d₁, hcall, hsame, hsize⟩ := hmade d
      obtain ⟨d₁', hcall', hsame', hsize'⟩ := hmade d'
      change Device.createBuffer _ (a.nextLabel usage) d = _ at hcall
      change Device.createBuffer _ (a'.nextLabel usage) d' = _ at hcall'
      have hroom : MemoryDevice.SameRoom (d.created + 1) (d'.created + 1) d₁ d₁' :=
        ⟨by rw [hsame', hsame, halignment], by rw [hsize', hsize]⟩
      have hfill := fill_sameRoom (r := ⟨usage, size.toNat, slotSize, d.created + 1, none⟩) host
        data hroom
      rw [BufferRecord.over] at hfill
      rw [hcall, hcall']
      dsimp only at hfill ⊢
      generalize fill host ⟨usage, size.toNat, slotSize, d.created + 1, none⟩ data d₁ = out
        at hfill ⊢
      generalize fill host ⟨usage, size.toNat, slotSize, d'.created + 1, none⟩ data d₁' = out'
        at hfill ⊢
      obtain ⟨filled, d₂⟩ := out
      obtain ⟨filled', d₂'⟩ := out'
      obtain rfl : filled' = _ := hfill
      cases filled with
      | error fault => rfl
      | ok r =>
        dsimp only [Except.map]
        have hanswer := hissue r (r.over (d'.created + 1))
        rcases hissued : a.issue r with ⟨answer, b⟩
        rcases hissued' : a'.issue (r.over (d'.created + 1)) with ⟨answer', b'⟩
        rw [hissued, hissued'] at hanswer
        obtain rfl : answer' = answer := hanswer
        cases answer' <;> rfl

end BufferAllocator

end RenderBridge
