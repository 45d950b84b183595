import RenderBridge.Buffer.Allocator
import RenderBridge.Proofs.Bytes
/-!
The courses that operations on buffers take, on any device.

* `StagingRing.EnsureCourse`, `ReserveCourse`: the buffer of the staging ring, and a reservation
  in it.
* `BufferAllocator.CreateCourse`, `create_course`: **making a buffer**. What was allocated for one
  that is not taken in is given back.
* `BufferAllocator.Accepts`: the updates that are accepted; `checkUpdate_cases` decides them.
* `BufferAllocator.UploadCourse`, `uploadStaged_course`: sending an upload through the staging ring.
* `BufferAllocator.UpdateCourse`, `update_course`: **updating a buffer**, directly or through the
  ring.
-/

set_option autoImplicit false

namespace RenderBridge

/-- Staging changes nothing of a record but its shadow. -/
lemma BufferRecord.stage_record {r r' : BufferRecord} {offset granule : ℕ} {bytes : Bytes}
    {upload : Upload} (h : r.stage offset bytes granule = (upload, r')) :
    r' = { r with shadow := r'.shadow } := by
  rw [stage] at h
  split at h <;> cases h <;> rfl

variable {δ P D : Type} [Device δ P D]

/-! ### The staging ring -/

namespace StagingRing

/-- The courses that having the ring's buffer takes: it is there, or refused, or made. -/
inductive EnsureCourse (ring : StagingRing) (d : δ) :
    Except Fault BufferId × StagingRing × δ → Prop
  | held {buffer : BufferId} (buffer_eq : ring.buffer = some buffer) :
      EnsureCourse ring d (.ok buffer, ring, d)
  | refused {fault : DeviceFault} {d' : δ} (buffer_eq : ring.buffer = none)
      (call : Device.createBuffer ring.capacity (some label) d = (.error fault, d')) :
      EnsureCourse ring d (.error (.ofDevice fault), ring, d')
  | made {buffer : BufferId} {d' : δ} (buffer_eq : ring.buffer = none)
      (call : Device.createBuffer ring.capacity (some label) d = (.ok buffer, d')) :
      EnsureCourse ring d (.ok buffer, { ring with buffer := some buffer }, d')

lemma ensureBuffer_course (ring : StagingRing) (d : δ) :
    EnsureCourse ring d (ring.ensureBuffer d) := by
  rw [ensureBuffer]
  cases hbuffer : ring.buffer with
  | some buffer => exact .held hbuffer
  | none =>
    dsimp only
    rcases hcall : Device.createBuffer ring.capacity (some label) d with ⟨fault | buffer, d'⟩
    · exact .refused hbuffer hcall
    · exact .made hbuffer hcall

/-- The courses that a reservation takes: it is settled where it lies, an outgrown buffer is given
back, and then there is a buffer or there is none. -/
inductive ReserveCourse (ring : StagingRing) (length : ℕ) (serial : FrameSerial) (d : δ) :
    Except Fault (BufferId × ℕ) × StagingRing × δ → Prop
  | refused {offset : ℕ} {settled ring' : StagingRing} {fault : Fault} {d' : δ}
      (settle_eq : ring.settle length serial = (offset, settled))
      (ensure : settled.ensureBuffer (releaseOutgrown ring settled d) = (.error fault, ring', d')) :
      ReserveCourse ring length serial d (.error fault, ring', d')
  | reserved {offset : ℕ} {settled ring' : StagingRing} {buffer : BufferId} {d' : δ}
      (settle_eq : ring.settle length serial = (offset, settled))
      (ensure : settled.ensureBuffer (releaseOutgrown ring settled d) = (.ok buffer, ring', d')) :
      ReserveCourse ring length serial d (.ok (buffer, offset), ring', d')

lemma reserve_course (ring : StagingRing) (length : ℕ) (serial : FrameSerial) (d : δ) :
    ReserveCourse ring length serial d (ring.reserve length serial d) := by
  rw [reserve]
  rcases hsettle : ring.settle length serial with ⟨offset, settled⟩
  dsimp only
  rcases hensure : settled.ensureBuffer (releaseOutgrown ring settled d) with
    ⟨fault | buffer, ring', d'⟩
  · exact .refused hsettle hensure
  · exact .reserved hsettle hensure

end StagingRing

namespace BufferAllocator

/-! ### Creating -/

omit [Device δ P D] in
/-- What is had for a shadow: none for a device that copies single bytes, otherwise zeros, where
memory has room for the allocation. -/
lemma newShadow_ok {host : HostMemory} {granule total : ℕ} {shadow : Option Bytes}
    (h : newShadow host granule total = .ok shadow) :
    (granule ≤ 1 ∧ shadow = none) ∨
      (1 < granule ∧ total < 2 ^ 56 ∧ shadow = some (Bytes.zeros total)) := by
  rw [newShadow] at h
  split at h
  · rename_i hfine
    cases h
    exact .inl ⟨hfine, rfl⟩
  · rename_i hcoarse
    split at h
    · rename_i hroom
      cases h
      exact .inr ⟨not_le.mp hcoarse, HostMemory.lt_of_granted hroom, rfl⟩
    · cases h
    · cases h

/-- Writing initial contents changes nothing of a record but its shadow. -/
lemma writeSlots_record {bytes : Bytes} {slots : List ℕ} {r r' : BufferRecord} {d d' : δ}
    (h : writeSlots bytes slots r d = (.ok r', d')) : r' = { r with shadow := r'.shadow } := by
  induction slots generalizing r d with
  | nil =>
    cases h
    rfl
  | cons slot rest ih =>
    rw [writeSlots] at h
    rcases hstage : r.stage (r.slotOffset slot) bytes (granule d) with ⟨upload, r₁⟩
    rw [hstage] at h
    dsimp only at h
    split at h
    · rw [ih h, BufferRecord.stage_record hstage]
    · cases h

/-- The courses that filling a new buffer takes. -/
inductive FillCourse (host : HostMemory) (r : BufferRecord) (d : δ) :
    Option Bytes → Except Fault BufferRecord × δ → Prop
  | unshadowed {data : Option Bytes} {fault : Fault}
      (shadow_eq : newShadow host (granule d) r.total = .error fault) :
      FillCourse host r d data (.error fault, d)
  | blank {data : Option Bytes} {shadow : Option Bytes}
      (shadow_eq : newShadow host (granule d) r.total = .ok shadow)
      (empty : (data.getD #[]).size = 0) :
      FillCourse host r d data (.ok { r with shadow }, d)
  | written {bytes : Bytes} {shadow : Option Bytes} {out : Except Fault BufferRecord × δ}
      (shadow_eq : newShadow host (granule d) r.total = .ok shadow) (size_pos : 0 < bytes.size)
      (write : writeSlots bytes (List.range r.slotCount) { r with shadow } d = out) :
      FillCourse host r d (some bytes) out

lemma fill_course (host : HostMemory) (r : BufferRecord) (data : Option Bytes) (d : δ) :
    FillCourse host r d data (fill host r data d) := by
  rw [fill]
  cases hshadow : newShadow host (granule d) r.total with
  | error fault => exact .unshadowed hshadow
  | ok shadow =>
    cases data with
    | none => exact .blank hshadow rfl
    | some bytes =>
      dsimp only
      split
      · rename_i hempty
        exact .blank hshadow (Array.isEmpty_iff_size_eq_zero.mp hempty)
      · rename_i hempty
        rw [Array.isEmpty_iff_size_eq_zero] at hempty
        exact .written hshadow (Nat.pos_of_ne_zero hempty) rfl

/-- Filling changes nothing of a record but its shadow. -/
lemma fill_record {host : HostMemory} {r r' : BufferRecord} {data : Option Bytes} {d d' : δ}
    (h : fill host r data d = (.ok r', d')) : r' = { r with shadow := r'.shadow } := by
  have hcourse := fill_course host r data d
  rw [h] at hcourse
  cases hcourse with
  | blank => rfl
  | written _ _ hwrite => rw [writeSlots_record hwrite]

/-- The courses that making a buffer takes: it is refused by its checks or by the device, or given
back because it cannot be filled or has no number, or taken in. -/
inductive CreateCourse (a : BufferAllocator) (usage : BufferUsage) (size : ℤ)
    (data : Option Bytes) (d : δ) (host : HostMemory) :
    Except Fault BufferHandle × BufferAllocator × δ → Prop
  | refused {fault : Fault} (check : checkCreate usage size data (granule d) = .error fault) :
      CreateCourse a usage size data d host (.error fault, a, d)
  | unallocated {slotSize : ℕ} {fault : DeviceFault} {d₁ : δ}
      (check : checkCreate usage size data (granule d) = .ok slotSize)
      (call : Device.createBuffer (slotSize * usage.slotCount) (a.nextLabel usage) d =
        (.error fault, d₁)) :
      CreateCourse a usage size data d host (.error (.ofDevice fault), a, d₁)
  | unfilled {slotSize : ℕ} {buffer : BufferId} {fault : Fault} {d₁ d₂ : δ}
      (check : checkCreate usage size data (granule d) = .ok slotSize)
      (call : Device.createBuffer (slotSize * usage.slotCount) (a.nextLabel usage) d =
        (.ok buffer, d₁))
      (filled : fill host ⟨usage, size.toNat, slotSize, buffer, none⟩ data d₁ =
        (.error fault, d₂)) :
      CreateCourse a usage size data d host (.error fault, a, Device.releaseBuffer buffer d₂)
  | unnumbered {slotSize : ℕ} {buffer : BufferId} {r : BufferRecord} {d₁ d₂ : δ}
      (check : checkCreate usage size data (granule d) = .ok slotSize)
      (call : Device.createBuffer (slotSize * usage.slotCount) (a.nextLabel usage) d =
        (.ok buffer, d₁))
      (filled : fill host ⟨usage, size.toNat, slotSize, buffer, none⟩ data d₁ = (.ok r, d₂))
      (number : BufferHandle.nth? a.nextNumber = none) :
      CreateCourse a usage size data d host
        (.error (.invalidArgument .bufferHandlesExhausted), a, Device.releaseBuffer buffer d₂)
  | created {slotSize : ℕ} {buffer : BufferId} {r : BufferRecord} {handle : BufferHandle}
      {d₁ d₂ : δ} (check : checkCreate usage size data (granule d) = .ok slotSize)
      (call : Device.createBuffer (slotSize * usage.slotCount) (a.nextLabel usage) d =
        (.ok buffer, d₁))
      (filled : fill host ⟨usage, size.toNat, slotSize, buffer, none⟩ data d₁ = (.ok r, d₂))
      (number : BufferHandle.nth? a.nextNumber = some handle) :
      CreateCourse a usage size data d host (.ok handle, { a with
        records := a.records.insert handle r, nextNumber := a.nextNumber + 1 }, d₂)

theorem create_course (a : BufferAllocator) (usage : BufferUsage) (size : ℤ)
    (data : Option Bytes) (d : δ) (host : HostMemory) :
    CreateCourse a usage size data d host (a.create usage size data d host) := by
  rw [create]
  cases hcheck : checkCreate usage size data (granule d) with
  | error fault => exact .refused hcheck
  | ok slotSize =>
    dsimp only
    rcases hcall : Device.createBuffer (slotSize * usage.slotCount) (a.nextLabel usage) d with
      ⟨fault | buffer, d₁⟩
    · exact .unallocated hcheck hcall
    · dsimp only
      rcases hfill : fill host ⟨usage, size.toNat, slotSize, buffer, none⟩ data d₁ with
        ⟨fault | r, d₂⟩
      · exact .unfilled hcheck hcall hfill
      · dsimp only
        rw [issue]
        cases hnumber : BufferHandle.nth? a.nextNumber with
        | none => exact .unnumbered hcheck hcall hfill hnumber
        | some handle => exact .created hcheck hcall hfill hnumber

/-! ### Which updates are accepted -/

/-- The updates that are accepted: the range lies in a live buffer, and there are bytes for it. -/
def Accepts (a : BufferAllocator) (handle : BufferHandle) (offset : ℤ) (data : Option Bytes)
    (length : ℤ) : Prop :=
  ∃ r, a.records.get? handle = some r ∧ 0 ≤ offset ∧ 0 ≤ length ∧ offset + length ≤ r.size ∧
    (length = 0 ∨ ∃ bytes, data = some bytes ∧ length ≤ bytes.size)

lemma find_cases (a : BufferAllocator) (handle : BufferHandle) :
    (∃ r, a.records.get? handle = some r ∧ a.find handle = .ok r) ∨
      (a.records.get? handle = none ∧
        a.find handle = .error (.invalidArgument (.unknownBuffer handle.raw))) := by
  rw [find]
  cases a.records.get? handle with
  | some r => exact .inl ⟨r, rfl, rfl⟩
  | none => exact .inr ⟨rfl, rfl⟩

/-- The update that is made of accepted bytes. -/
structure Asked (a : BufferAllocator) (handle : BufferHandle) (offset : ℤ) (data : Option Bytes)
    (length : ℤ) (r : BufferRecord) (payload : Bytes) : Prop where
  live : a.records.get? handle = some r
  inside : offset.toNat + payload.size ≤ r.size
  size : payload.size = length.toNat
  payload : ∃ bytes, data = some bytes ∧ length.toNat ≤ bytes.size ∧
    payload = bytes.slice 0 length.toNat

lemma checkUpdate_cases (a : BufferAllocator) (handle : BufferHandle) (offset : ℤ)
    (data : Option Bytes) (length : ℤ) :
    (∃ fault, a.checkUpdate handle offset data length = .error fault ∧
        ¬ a.Accepts handle offset data length) ∨
      (a.checkUpdate handle offset data length = .ok none ∧ length = 0 ∧
        a.Accepts handle offset data length) ∨
      (∃ r payload, a.checkUpdate handle offset data length =
          .ok (some ⟨r, offset.toNat, payload⟩) ∧ length ≠ 0 ∧
        a.Accepts handle offset data length ∧ a.Asked handle offset data length r payload) := by
  rw [checkUpdate]
  by_cases hnegative : offset < 0 ∨ length < 0
  · rw [if_pos hnegative]
    refine .inl ⟨_, rfl, ?_⟩
    rintro ⟨r, -, hoffset, hlength, -⟩
    omega
  · rw [if_neg hnegative]
    rcases a.find_cases handle with ⟨r, hlive, hfind⟩ | ⟨hgone, hfind⟩
    · have hlive_eq : ∀ r', a.records.get? handle = some r' → r' = r := fun r' h =>
        Option.some.inj (h.symm.trans hlive)
      rw [hfind]
      dsimp only
      by_cases hrange : r.size < offset.toNat + length.toNat
      · rw [if_pos hrange]
        refine .inl ⟨_, rfl, ?_⟩
        rintro ⟨r', hr', hoffset, hlength, hinside, -⟩
        rw [hlive_eq r' hr'] at hinside
        omega
      · rw [if_neg hrange]
        have hinside : offset + length ≤ r.size := by omega
        by_cases hzero : length = 0
        · rw [if_pos hzero]
          exact .inr (.inl ⟨rfl, hzero, r, hlive, by omega, by omega, hinside, .inl hzero⟩)
        · rw [if_neg hzero]
          cases data with
          | none =>
            refine .inl ⟨_, rfl, ?_⟩
            rintro ⟨-, -, -, -, -, hnone | ⟨bytes, hbytes, -⟩⟩
            · exact hzero hnone
            · cases hbytes
          | some bytes =>
            dsimp only
            by_cases hshort : bytes.size < length.toNat
            · rw [if_pos hshort]
              refine .inl ⟨_, rfl, ?_⟩
              rintro ⟨-, -, -, -, -, hnone | ⟨bytes', hbytes, hlong⟩⟩
              · exact hzero hnone
              · cases hbytes
                omega
            · rw [if_neg hshort]
              have hsize : (bytes.slice 0 length.toNat).size = length.toNat :=
                Bytes.size_slice (by omega)
              refine .inr (.inr ⟨r, _, rfl, hzero, ?_, ?_⟩)
              · exact ⟨r, hlive, by omega, by omega, hinside, .inr ⟨bytes, rfl, by omega⟩⟩
              · exact ⟨hlive, by omega, hsize, bytes, rfl, by omega, rfl⟩
    · rw [hfind]
      refine .inl ⟨_, rfl, ?_⟩
      rintro ⟨r, hr, -⟩
      rw [hgone] at hr
      cases hr

/-! ### Updating -/

/-- The courses that sending an upload through the staging ring takes. -/
inductive UploadCourse (ring : StagingRing) (buffer : BufferId) (upload : Upload)
    (serial : FrameSerial) (d : δ) : Except Fault Unit × StagingRing × δ → Prop
  | unreserved {fault : Fault} {ring' : StagingRing} {d₁ : δ}
      (reserve : ring.reserve upload.bytes.size serial d = (.error fault, ring', d₁)) :
      UploadCourse ring buffer upload serial d (.error fault, ring', d₁)
  | unwritten {staging : BufferId} {offset : ℕ} {ring' : StagingRing} {fault : DeviceFault}
      {d₁ d₂ : δ}
      (reserve : ring.reserve upload.bytes.size serial d = (.ok (staging, offset), ring', d₁))
      (write : Device.writeBuffer staging offset upload.bytes d₁ = (.error fault, d₂)) :
      UploadCourse ring buffer upload serial d (.error (.ofDevice fault), ring', d₂)
  | uncopied {staging : BufferId} {offset : ℕ} {ring' : StagingRing} {fault : DeviceFault}
      {d₁ d₂ d₃ : δ}
      (reserve : ring.reserve upload.bytes.size serial d = (.ok (staging, offset), ring', d₁))
      (write : Device.writeBuffer staging offset upload.bytes d₁ = (.ok (), d₂))
      (copy : Device.copyBuffer staging offset buffer upload.offset upload.bytes.size d₂ =
        (.error fault, d₃)) :
      UploadCourse ring buffer upload serial d (.error (.ofDevice fault), ring', d₃)
  | sent {staging : BufferId} {offset : ℕ} {ring' : StagingRing} {d₁ d₂ d₃ : δ}
      (reserve : ring.reserve upload.bytes.size serial d = (.ok (staging, offset), ring', d₁))
      (write : Device.writeBuffer staging offset upload.bytes d₁ = (.ok (), d₂))
      (copy : Device.copyBuffer staging offset buffer upload.offset upload.bytes.size d₂ =
        (.ok (), d₃)) :
      UploadCourse ring buffer upload serial d (.ok (), ring', d₃)

lemma uploadStaged_course (ring : StagingRing) (buffer : BufferId) (upload : Upload)
    (serial : FrameSerial) (d : δ) :
    UploadCourse ring buffer upload serial d (uploadStaged ring buffer upload serial d) := by
  rw [uploadStaged]
  rcases hreserve : ring.reserve upload.bytes.size serial d with
    ⟨fault | ⟨staging, offset⟩, ring', d₁⟩
  · exact .unreserved hreserve
  · dsimp only
    rcases hwrite : Device.writeBuffer staging offset upload.bytes d₁ with ⟨fault | _, d₂⟩
    · exact .unwritten hreserve hwrite
    · dsimp only
      rcases hcopy : Device.copyBuffer staging offset buffer upload.offset upload.bytes.size d₂
        with ⟨fault | _, d₃⟩
      · exact .uncopied hreserve hwrite hcopy
      · exact .sent hreserve hwrite hcopy

/-- An accepted update of some bytes of a buffer, and the upload that it stages. -/
structure Stage (a : BufferAllocator) (handle : BufferHandle) (offset : ℤ) (data : Option Bytes)
    (length : ℤ) (serial : FrameSerial) (granule : ℕ) (r r' : BufferRecord) (payload : Bytes)
    (upload : Upload) : Prop where
  accepts : a.Accepts handle offset data length
  length_ne : length ≠ 0
  asked : a.Asked handle offset data length r payload
  stage_eq : r.stage (r.activeOffset serial + offset.toNat) payload granule = (upload, r')

namespace Stage

variable {a : BufferAllocator} {handle : BufferHandle} {offset length : ℤ} {data : Option Bytes}
  {serial : FrameSerial} {granule : ℕ} {r r' : BufferRecord} {payload : Bytes} {upload : Upload}

lemma buffer_eq (h : a.Stage handle offset data length serial granule r r' payload upload) :
    r'.buffer = r.buffer := by
  rw [BufferRecord.stage_record h.stage_eq]

lemma usage_eq (h : a.Stage handle offset data length serial granule r r' payload upload) :
    r'.usage = r.usage := by
  rw [BufferRecord.stage_record h.stage_eq]

end Stage

/-- The courses that updating a buffer takes: it is refused, or there is nothing to write, or the
upload that it stages is written directly or sent through the ring. -/
inductive UpdateCourse (a : BufferAllocator) (handle : BufferHandle) (offset : ℤ)
    (data : Option Bytes) (length : ℤ) (serial : FrameSerial) (d : δ) :
    Except Fault Unit × BufferAllocator × δ → Prop
  | refused {fault : Fault} (check : a.checkUpdate handle offset data length = .error fault)
      (not_accepts : ¬ a.Accepts handle offset data length) :
      UpdateCourse a handle offset data length serial d (.error fault, a, d)
  | empty (accepts : a.Accepts handle offset data length) (length_eq : length = 0) :
      UpdateCourse a handle offset data length serial d (.ok (), a, d)
  | unwritten {r r' : BufferRecord} {payload : Bytes} {upload : Upload} {fault : DeviceFault}
      {d' : δ}
      (stage : a.Stage handle offset data length serial (granule d) r r' payload upload)
      (usage : r'.usage = .unchanging)
      (write : Device.writeBuffer r'.buffer upload.offset upload.bytes d = (.error fault, d')) :
      UpdateCourse a handle offset data length serial d (.error (.ofDevice fault),
        { a with records := a.records.insert handle r' }, d')
  | written {r r' : BufferRecord} {payload : Bytes} {upload : Upload} {d' : δ}
      (stage : a.Stage handle offset data length serial (granule d) r r' payload upload)
      (usage : r'.usage = .unchanging)
      (write : Device.writeBuffer r'.buffer upload.offset upload.bytes d = (.ok (), d')) :
      UpdateCourse a handle offset data length serial d (.ok (),
        { a with records := a.records.insert handle r' }, d')
  | staged {r r' : BufferRecord} {payload : Bytes} {upload : Upload} {answer : Except Fault Unit}
      {ring : StagingRing} {d' : δ}
      (stage : a.Stage handle offset data length serial (granule d) r r' payload upload)
      (usage : r'.usage = .changing)
      (send : uploadStaged a.ring r'.buffer upload serial d = (answer, ring, d')) :
      UpdateCourse a handle offset data length serial d (answer,
        { a with records := a.records.insert handle r', ring }, d')

theorem update_course (a : BufferAllocator) (handle : BufferHandle) (offset : ℤ)
    (data : Option Bytes) (length : ℤ) (serial : FrameSerial) (d : δ) :
    UpdateCourse a handle offset data length serial d
      (a.update handle offset data length serial d) := by
  rw [update]
  rcases a.checkUpdate_cases handle offset data length with
    ⟨fault, hcheck, hnot⟩ | ⟨hcheck, hzero, haccepts⟩ |
      ⟨r, payload, hcheck, hlength, haccepts, hasked⟩
  · rw [hcheck]
    exact .refused hcheck hnot
  · rw [hcheck]
    exact .empty haccepts hzero
  · rw [hcheck]
    dsimp only
    rcases hstage : r.stage (r.activeOffset serial + offset.toNat) payload (granule d) with
      ⟨upload, r'⟩
    have hstaged : a.Stage handle offset data length serial (granule d) r r' payload upload :=
      ⟨haccepts, hlength, hasked, hstage⟩
    dsimp only
    cases husage : r'.usage with
    | unchanging =>
      dsimp only
      rcases hwrite : Device.writeBuffer r'.buffer upload.offset upload.bytes d with
        ⟨fault | _, d'⟩
      · exact .unwritten hstaged husage hwrite
      · exact .written hstaged husage hwrite
    | changing => exact .staged hstaged husage rfl

end BufferAllocator

end RenderBridge
