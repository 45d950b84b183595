import RenderBridge.Proofs.Buffer.Issue
import RenderBridge.Proofs.Buffer.Reservation
import RenderBridge.Proofs.Buffer.Update
/-!
The calls on logical buffers with every step of arithmetic checked, and every index.

* `Bytes.index?`, `range?`, `replace?`: indices and ranges of byte strings, or none where they
  leave the string.
* `BufferRecord.Bounded`: a record whose slots are words and whose shadow has their length.
* `Upload.widen?_eq`, `BufferRecord.stage?_eq`: widening an upload of a bounded record indexes the
  shadow inside.
* `BufferAllocator.create?`, `update?`, `binding?`: the calls, step by step.
* `BufferAllocator.create_checked`, `update_checked`, `binding?_eq`: **no step of a call fails**
  where the records are bounded and the ring is level.
-/

set_option autoImplicit false

namespace RenderBridge

/-! ### Byte strings -/

namespace Bytes

/-- A number as an index. The length of a string in memory is a host word, however wide host words
are, and so is a number up to it. -/
def index? (bytes : Bytes) (n : ℕ) : Option ℕ := if n ≤ bytes.size then some n else none

/-- The bytes between two indices. -/
def range? (bytes : Bytes) (start stop : ℕ) : Option Bytes :=
  if start ≤ stop ∧ stop ≤ bytes.size then some (bytes.slice start (stop - start)) else none

/-- The bytes between two indices replaced by as many. -/
def replace? (bytes : Bytes) (start stop : ℕ) (part : Bytes) : Option Bytes :=
  if start ≤ stop ∧ stop ≤ bytes.size ∧ part.size = stop - start then
    some (bytes.overwrite start part)
  else none

variable {bytes part : Bytes} {start stop : ℕ}

lemma index?_eq (h : start ≤ bytes.size) : bytes.index? start = some start := if_pos h

lemma range?_eq (hle : start ≤ stop) (h : stop ≤ bytes.size) :
    bytes.range? start stop = some (bytes.slice start (stop - start)) := if_pos ⟨hle, h⟩

lemma replace?_eq (h : start + part.size ≤ bytes.size) :
    bytes.replace? start (start + part.size) part = some (bytes.overwrite start part) :=
  if_pos ⟨Nat.le_add_right _ _, h, (Nat.add_sub_cancel_left _ _).symm⟩

end Bytes

/-! ### Records -/

/-- Brings `bytes` into the shadow and widens them, step by step. -/
def Upload.widen? (shadow : Bytes) (offset : ℕ) (bytes : Bytes) (granule : ℕ) :
    Option (Upload × Bytes) := do
  let first ← shadow.index? offset
  let last ← shadow.index? (first + bytes.size)
  let shadow ← shadow.replace? first last bytes
  let quotient ← Word.div? offset granule
  let start ← Word.mul? quotient granule
  let stop ← Word.alignUp? (← Word.add? offset bytes.size) granule
  let low ← shadow.index? start
  let high ← shadow.index? (min stop shadow.size)
  let widened ← shadow.range? low high
  return (⟨start, widened⟩, shadow)

/-- Uploads inside the shadow are widened inside the shadow. -/
lemma Upload.widen?_eq {shadow bytes : Bytes} {offset granule : ℕ} (hg : 0 < granule)
    (hrange : offset + bytes.size ≤ shadow.size) (hword : shadow.size < Word.range) :
    Upload.widen? shadow offset bytes granule =
      some (Upload.widen shadow offset bytes granule) := by
  have hsize : (shadow.overwrite offset bytes).size = shadow.size := Bytes.size_overwrite hrange
  have hstart : offset / granule * granule ≤ offset := Nat.div_mul_le_self _ _
  have hround : offset / granule * granule ≤ Word.alignUp (offset + bytes.size) granule :=
    Word.div_mul_le_alignUp hg (Nat.le_add_right _ _) (lt_of_le_of_lt hrange hword)
  have hlow : offset / granule * granule ≤
      min (Word.alignUp (offset + bytes.size) granule) shadow.size :=
    le_min hround (by omega)
  have hhigh := min_le_right (Word.alignUp (offset + bytes.size) granule) shadow.size
  simp only [widen?, Option.bind_eq_bind, Bytes.index?_eq (show offset ≤ shadow.size by omega),
    Option.bind_some, Bytes.index?_eq hrange, Bytes.replace?_eq hrange, Word.div?_eq hg,
    Word.mul?_eq (show offset / granule * granule < Word.range by omega),
    Word.add?_eq (lt_of_le_of_lt hrange hword), Word.alignUp?_eq hg]
  rw [Bytes.index?_eq (by omega), Option.bind_some, hsize, Bytes.index?_eq (by omega),
    Option.bind_some, Bytes.range?_eq hlow (by omega), Option.bind_some, widen, hsize]
  rfl

/-- Widened bytes come from the shadow. -/
lemma Upload.size_widen_le {shadow bytes : Bytes} {offset granule : ℕ}
    (hrange : offset + bytes.size ≤ shadow.size) :
    (Upload.widen shadow offset bytes granule).1.bytes.size ≤ shadow.size := by
  rw [widen, Bytes.slice, Array.size_extract, Bytes.size_overwrite hrange]
  omega

namespace BufferRecord

/-- Where a slot starts, step by step. -/
def slotOffset? (r : BufferRecord) (slot : ℕ) : Option ℕ := Word.mul? slot r.slotSize

/-- Where the slot of a frame starts, step by step. -/
def activeOffset? (r : BufferRecord) (serial : FrameSerial) : Option ℕ := do
  let slot ← Word.mod? serial.count.toNat (max r.slotCount 1)
  r.slotOffset? slot

/-- The range that draws of a frame read, step by step. -/
def binding? (r : BufferRecord) (serial : FrameSerial) : Option BufferBinding := do
  let offset ← r.activeOffset? serial
  return ⟨r.buffer, offset, r.size⟩

/-- An upload, step by step. -/
def stage? (r : BufferRecord) (offset : ℕ) (bytes : Bytes) (granule : ℕ) :
    Option (Upload × BufferRecord) :=
  match r.shadow with
  | none => some (⟨offset, bytes⟩, r)
  | some shadow => do
    let (upload, shadow) ← Upload.widen? shadow offset bytes granule
    return (upload, { r with shadow := some shadow })

/-- A record whose slots are words. The shadow, where there is one, has their length and found room
in host memory. -/
structure Bounded (r : BufferRecord) : Prop where
  size_le : r.size ≤ r.slotSize
  total_lt : r.total < Word.range
  shadow_size : ∀ shadow, r.shadow = some shadow → shadow.size = r.total
  shadow_lt : ∀ shadow, r.shadow = some shadow → shadow.size < 2 ^ 56

variable {r : BufferRecord} {offset granule : ℕ} {bytes : Bytes}

lemma slotOffset?_eq (hr : r.Bounded) {slot : ℕ} (hslot : slot < r.slotCount) :
    r.slotOffset? slot = some (r.slotOffset slot) := by
  have hend := slotOffset_add_le hslot
  have htotal := hr.total_lt
  refine Word.mul?_eq ?_
  rw [slotOffset] at hend
  omega

lemma activeOffset?_eq (hr : r.Bounded) (serial : FrameSerial) :
    r.activeOffset? serial = some (r.activeOffset serial) := by
  rw [activeOffset?, Word.mod?_eq (lt_max_of_lt_right Nat.zero_lt_one)]
  exact slotOffset?_eq hr (r.activeSlot_lt serial)

lemma binding?_eq (hr : r.Bounded) (serial : FrameSerial) :
    r.binding? serial = some (r.binding serial) := by
  rw [binding?, activeOffset?_eq hr]
  rfl

/-- A range of a slot lies in the allocation. -/
lemma Bounded.slot_add_le (hr : r.Bounded) {slot : ℕ} (hslot : slot < r.slotCount)
    (hrange : offset ≤ r.size) : r.slotOffset slot + offset ≤ r.total :=
  calc r.slotOffset slot + offset ≤ r.slotOffset slot + r.slotSize :=
        Nat.add_le_add_left (hrange.trans hr.size_le) _
    _ ≤ r.total := slotOffset_add_le hslot

lemma stage?_eq (hr : r.Bounded) (hg : 0 < granule) (hrange : offset + bytes.size ≤ r.total) :
    r.stage? offset bytes granule = some (r.stage offset bytes granule) := by
  rw [stage?, stage]
  cases hshadow : r.shadow with
  | none => rfl
  | some shadow =>
    have hsize := hr.shadow_size shadow hshadow
    have htotal := hr.total_lt
    dsimp only
    rw [Upload.widen?_eq hg (by omega) (by omega)]
    rfl

/-- Another shadow of the same length leaves a record bounded. -/
lemma Bounded.patch (hr : r.Bounded) {shadow patched : Bytes} (hshadow : r.shadow = some shadow)
    (hsize : patched.size = shadow.size) : { r with shadow := some patched }.Bounded where
  size_le := hr.size_le
  total_lt := hr.total_lt
  shadow_size := by
    rintro _ ⟨⟩
    exact hsize.trans (hr.shadow_size shadow hshadow)
  shadow_lt := by
    rintro _ ⟨⟩
    rw [hsize]
    exact hr.shadow_lt shadow hshadow

lemma Bounded.stage (hr : r.Bounded) (granule : ℕ) (hrange : offset + bytes.size ≤ r.total) :
    (r.stage offset bytes granule).2.Bounded := by
  rw [BufferRecord.stage]
  cases hshadow : r.shadow with
  | none => exact hr
  | some shadow =>
    have hin : offset + bytes.size ≤ shadow.size := by
      rw [hr.shadow_size shadow hshadow]
      exact hrange
    exact hr.patch hshadow (Bytes.size_overwrite hin)

/-- Uploads are shorter than host memory, or as long as they came. -/
lemma size_stage_le (hr : r.Bounded) (granule : ℕ) (hrange : offset + bytes.size ≤ r.total)
    (hbytes : bytes.size ≤ 2 ^ 63) :
    (r.stage offset bytes granule).1.bytes.size ≤ 2 ^ 63 := by
  rw [BufferRecord.stage]
  cases hshadow : r.shadow with
  | none => exact hbytes
  | some shadow =>
    have hsize := hr.shadow_size shadow hshadow
    calc (Upload.widen shadow offset bytes granule).1.bytes.size
      _ ≤ shadow.size := Upload.size_widen_le (by omega)
      _ ≤ 2 ^ 56 := (hr.shadow_lt shadow hshadow).le
      _ ≤ 2 ^ 63 := by decide

end BufferRecord

/-! ### Creating -/

/-- Slots are long enough, also where rounding is cut off at the top of the range: what does not fit
below it is then rounded to more than half of the range. -/
lemma BufferUsage.le_slotSize (usage : BufferUsage) {size granule : ℕ} (hsize : size < 2 ^ 63)
    (hg : granule < Word.range) : size ≤ usage.slotSize size granule := by
  have halignment : max usage.slotAlignment granule < Word.range :=
    max_lt (by cases usage <;> decide) hg
  have hpos : 0 < max usage.slotAlignment granule :=
    lt_max_of_lt_left (by cases usage <;> decide)
  rw [slotSize]
  by_cases hround : size + (max usage.slotAlignment granule - 1) < Word.range
  · exact Word.le_alignUp hpos hround
  · rw [Word.alignUp_of_range_le (not_lt.mp hround)]
    have hquotient : 1 ≤ (Word.range - 1) / max usage.slotAlignment granule :=
      (Nat.le_div_iff_mul_le hpos).mpr (by omega)
    calc size ≤ max usage.slotAlignment granule := by
          rw [Word.range] at hround
          omega
      _ = 1 * max usage.slotAlignment granule := (Nat.one_mul _).symm
      _ ≤ (Word.range - 1) / max usage.slotAlignment granule * max usage.slotAlignment granule :=
          Nat.mul_le_mul_right _ hquotient

namespace BufferAllocator

variable {δ P D : Type} [Device δ P D]

/-- Checks a request for a buffer, step by step. A product that is no word is refused here. -/
def checkCreate? (usage : BufferUsage) (size : ℤ) (data : Option Bytes) (granule : ℕ) :
    Option (Except Fault ℕ) :=
  if size ≤ 0 then some (.error (.invalidArgument (.bufferSizeNotPositive size)))
  else
    let length := (data.map Array.size).getD 0
    if size.toNat < length then
      some (.error (.invalidArgument (.initialDataTooLong length size.toNat)))
    else do
      let slotSize ← Word.alignUp? size.toNat (max usage.slotAlignment granule)
      match Word.mul? slotSize usage.slotCount with
      | none => return .error (.invalidArgument .bufferSizeOverflow)
      | some _ => return .ok slotSize

/-- Writes to the start of each of the slots, step by step. -/
def writeSlots? (bytes : Bytes) :
    List ℕ → BufferRecord → δ → Option (Except Fault BufferRecord × δ)
  | [], record, device => some (.ok record, device)
  | slot :: rest, record, device => do
    let offset ← record.slotOffset? slot
    let (upload, record) ← record.stage? offset bytes (granule device)
    match Device.writeBuffer record.buffer upload.offset upload.bytes device with
    | (.ok (), device) => writeSlots? bytes rest record device
    | (.error fault, device) => return (.error (.ofDevice fault), device)

/-- The shadow and the initial contents, step by step. -/
def fill? (host : HostMemory) (record : BufferRecord) (data : Option Bytes) (device : δ) :
    Option (Except Fault BufferRecord × δ) :=
  match newShadow host (granule device) record.total with
  | .error fault => some (.error fault, device)
  | .ok shadow =>
    match data with
    | some bytes =>
      if bytes.isEmpty then some (.ok { record with shadow }, device)
      else writeSlots? bytes (List.range record.slotCount) { record with shadow } device
    | none => some (.ok { record with shadow }, device)

/-- Takes a filled buffer in, step by step. The number behind the last one has to be a word, too. -/
def issue? (a : BufferAllocator) (record : BufferRecord) :
    Option (Except Fault BufferHandle × BufferAllocator) := do
  let next ← Word.add? a.nextNumber 1
  match BufferHandle.nth? a.nextNumber with
  | some handle =>
    return (.ok handle, { a with records := a.records.insert handle record, nextNumber := next })
  | none => return (.error (.invalidArgument .bufferHandlesExhausted), a)

/-- A new buffer, step by step. -/
def create? (a : BufferAllocator) (usage : BufferUsage) (size : ℤ) (data : Option Bytes)
    (device : δ) (host : HostMemory := .ample) :
    Option (Except Fault BufferHandle × BufferAllocator × δ) := do
  match ← checkCreate? usage size data (granule device) with
  | .error fault => return (.error fault, a, device)
  | .ok slotSize =>
    match Device.createBuffer (slotSize * usage.slotCount) (a.nextLabel usage) device with
    | (.error fault, device) => return (.error (.ofDevice fault), a, device)
    | (.ok buffer, device) =>
      match ← fill? host ⟨usage, size.toNat, slotSize, buffer, none⟩ data device with
      | (.error fault, device) => return (.error fault, a, Device.releaseBuffer buffer device)
      | (.ok record, device) =>
        match ← a.issue? record with
        | (.ok handle, a) => return (.ok handle, a, device)
        | (.error fault, a) => return (.error fault, a, Device.releaseBuffer buffer device)

lemma granule_pos (device : δ) : 0 < granule device := lt_max_of_lt_right Nat.zero_lt_one

lemma checkCreate?_eq (usage : BufferUsage) (size : ℤ) (data : Option Bytes) (granule : ℕ) :
    checkCreate? usage size data granule = some (checkCreate usage size data granule) := by
  have hpos : 0 < max usage.slotAlignment granule :=
    lt_max_of_lt_left (by cases usage <;> decide)
  rw [checkCreate?, checkCreate]
  split_ifs with hsize
  · rfl
  · dsimp only
    rw [Word.alignUp?_eq hpos, ← BufferUsage.slotSize]
    simp only [Option.bind_eq_bind, Option.bind_some, Word.mul?, ← not_lt]
    split_ifs <;> rfl

/-- A request that goes ahead is for a word of bytes. -/
lemma total_lt_of_checkCreate {usage : BufferUsage} {size : ℤ} {data : Option Bytes}
    {granule slotSize : ℕ} (h : checkCreate usage size data granule = .ok slotSize) :
    slotSize * usage.slotCount < Word.range := by
  rw [checkCreate] at h
  split_ifs at h with hpos
  dsimp only at h
  split_ifs at h with hlong hword
  cases h
  exact not_le.mp hword

/-- Writing slots inside the allocation. -/
lemma writeSlots_checked {bytes : Bytes} {slots : List ℕ} {r : BufferRecord} (hr : r.Bounded)
    (hbytes : bytes.size ≤ r.size) (hslots : ∀ slot ∈ slots, slot < r.slotCount) (d : δ) :
    writeSlots? bytes slots r d = some (writeSlots bytes slots r d) ∧
      ∀ r', (writeSlots bytes slots r d).1 = .ok r' → r'.Bounded := by
  induction slots generalizing r d with
  | nil =>
    refine ⟨rfl, ?_⟩
    rintro r' ⟨⟩
    exact hr
  | cons slot rest ih =>
    have hslot := hslots slot (by simp)
    have hrange : r.slotOffset slot + bytes.size ≤ r.total := hr.slot_add_le hslot hbytes
    have hstaged := hr.stage (granule d) hrange
    rw [writeSlots?, writeSlots, BufferRecord.slotOffset?_eq hr hslot]
    simp only [Option.bind_eq_bind, Option.bind_some,
      BufferRecord.stage?_eq hr (granule_pos d) hrange]
    rcases hstage : r.stage (r.slotOffset slot) bytes (granule d) with ⟨upload, r₁⟩
    rw [hstage] at hstaged
    obtain ⟨shadow, rfl⟩ : ∃ shadow, r₁ = { r with shadow } :=
      ⟨_, BufferRecord.stage_record hstage⟩
    dsimp only at hstaged ⊢
    rcases Device.writeBuffer r.buffer upload.offset upload.bytes d with ⟨fault | _, d₁⟩
    · refine ⟨rfl, ?_⟩
      rintro r' ⟨⟩
    · exact ih hstaged hbytes (fun slot hslot => hslots slot (List.mem_cons_of_mem _ hslot)) d₁

/-- A shadow has the length of the allocation. -/
lemma bounded_of_newShadow {host : HostMemory} {r : BufferRecord} (hr : r.Bounded) {granule : ℕ}
    {shadow : Option Bytes} (h : newShadow host granule r.total = .ok shadow) :
    { r with shadow }.Bounded := by
  rcases newShadow_ok h with ⟨-, rfl⟩ | ⟨-, htotal, rfl⟩
  · exact ⟨hr.size_le, hr.total_lt, by rintro _ ⟨⟩, by rintro _ ⟨⟩⟩
  · refine ⟨hr.size_le, hr.total_lt, ?_, ?_⟩
    · rintro _ ⟨⟩
      exact Bytes.size_zeros _
    · rintro _ ⟨⟩
      rw [Bytes.size_zeros]
      exact htotal

/-- Filling a new buffer. -/
lemma fill_checked (host : HostMemory) {r : BufferRecord} (hr : r.Bounded) {data : Option Bytes}
    (hdata : (data.getD #[]).size ≤ r.size) (d : δ) :
    fill? host r data d = some (fill host r data d) ∧
      ∀ r', (fill host r data d).1 = .ok r' → r'.Bounded := by
  rw [fill?, fill]
  cases hnew : newShadow host (granule d) r.total with
  | error fault =>
    refine ⟨rfl, ?_⟩
    rintro r' ⟨⟩
  | ok shadow =>
    have hbounded := bounded_of_newShadow hr hnew
    cases data with
    | none =>
      refine ⟨rfl, ?_⟩
      rintro r' ⟨⟩
      exact hbounded
    | some bytes =>
      dsimp only
      split
      · refine ⟨rfl, ?_⟩
        rintro r' ⟨⟩
        exact hbounded
      · exact writeSlots_checked hbounded hdata (fun slot hslot => List.mem_range.mp hslot) d

/-- Taking a filled buffer in, as long as the next number is a word. -/
lemma issue_checked {a : BufferAllocator} (r : BufferRecord) (hpos : 0 < a.nextNumber)
    (hnumber : (a.issue r).2.nextNumber < Word.range) : a.issue? r = some (a.issue r) := by
  rw [issue] at hnumber ⊢
  rw [issue?]
  cases hnth : BufferHandle.nth? a.nextNumber with
  | some handle =>
    rw [hnth] at hnumber
    rw [Word.add?_eq hnumber]
    rfl
  | none =>
    rw [hnth] at hnumber
    obtain ⟨handle, hhandle⟩ := BufferHandle.exists_nth?_eq hpos hnumber
    rw [hnth] at hhandle
    cases hhandle

/-- What a creation does on a device that keeps a trace: a bounded record over an allocation of its
length is taken in, or the allocator stays as it is. No step fails as long as the next number is a
word. -/
lemma create_checked {a : BufferAllocator} {t : Traced δ P D}
    (hg : Device.copyAlignment t.device < Word.range) (hpos : 0 < a.nextNumber)
    (usage : BufferUsage) {size : ℤ} (hsize : size < 2 ^ 63) (data : Option Bytes)
    (host : HostMemory) :
    ((a.create usage size data t host).2.1.nextNumber < Word.range →
        a.create? usage size data t host = some (a.create usage size data t host)) ∧
      ((∃ fault t', a.create usage size data t host = (.error fault, a, t')) ∨
        ∃ handle r t', a.create usage size data t host = (.ok handle, { a with
            records := a.records.insert handle r, nextNumber := a.nextNumber + 1 }, t') ∧
          r.Bounded ∧ (r.total, r.buffer) ∈ t'.created) := by
  rw [create?, checkCreate?_eq, create]
  simp only [Option.bind_eq_bind, Option.bind_some]
  cases hcheck : checkCreate usage size data (granule t) with
  | error fault => exact ⟨fun _ => rfl, .inl ⟨fault, t, rfl⟩⟩
  | ok slotSize =>
    obtain ⟨-, hdata, hslot⟩ := checkCreate_ok hcheck
    dsimp only
    rcases hcall : Device.createBuffer (slotSize * usage.slotCount) (a.nextLabel usage) t with
      ⟨fault | buffer, t₁⟩
    · exact ⟨fun _ => rfl, .inl ⟨_, t₁, rfl⟩⟩
    have hr : BufferRecord.Bounded ⟨usage, size.toNat, slotSize, buffer, none⟩ := by
      refine ⟨?_, total_lt_of_checkCreate hcheck, by rintro _ ⟨⟩, by rintro _ ⟨⟩⟩
      show size.toNat ≤ slotSize
      rw [hslot]
      exact usage.le_slotSize (by omega) (max_lt hg (by decide))
    obtain ⟨hfill, hfilled⟩ := fill_checked host hr hdata t₁
    have hcreated : t₁ = t₁ ∧ (slotSize * usage.slotCount, buffer) ∈ t₁.created := by
      rw [Traced.created_of_createBuffer hcall]
      simp
    have hkept := fill_agree (Traced.keeps_mem_created _ [.memory]).simulates
      (List.mem_singleton_self _) hcreated host ⟨usage, size.toNat, slotSize, buffer, none⟩ data
    dsimp only
    rw [hfill]
    simp only [Option.bind_some]
    rcases hcase : fill host ⟨usage, size.toNat, slotSize, buffer, none⟩ data t₁ with
      ⟨fault | r, t₂⟩
    · exact ⟨fun _ => rfl, .inl ⟨fault, _, rfl⟩⟩
    rw [hcase] at hfilled hkept
    have hbounded := hfilled r rfl
    obtain ⟨-, -, hmade⟩ := hkept
    have hallocated : (r.total, r.buffer) ∈ t₂.created := by
      rw [fill_record hcase]
      exact hmade
    have hissued := issue_checked r hpos
    dsimp only
    rcases a.issue_cases r with ⟨handle, hissue, -⟩ | ⟨fault, hissue⟩
    · rw [hissue] at hissued ⊢
      refine ⟨fun hnumber => ?_, .inr ⟨handle, r, t₂, rfl, hbounded, hallocated⟩⟩
      rw [hissued hnumber]
      rfl
    · rw [hissue] at hissued ⊢
      refine ⟨fun hnumber => ?_, .inl ⟨fault, _, rfl⟩⟩
      rw [hissued hnumber]
      rfl

/-! ### Updating and drawing -/

/-- Checks an update, step by step. -/
def checkUpdate? (a : BufferAllocator) (handle : BufferHandle) (offset : ℤ)
    (data : Option Bytes) (length : ℤ) : Option (Except Fault (Option Update)) :=
  if offset < 0 ∨ length < 0 then some (.error (.invalidArgument .negativeUpdate))
  else
    match a.find handle with
    | .error fault => some (.error fault)
    | .ok record => do
      let stop ← Word.add? offset.toNat length.toNat
      if record.size < stop then
        return .error (.invalidArgument (.updateOutsideBuffer offset.toNat stop record.size))
      else if length = 0 then return .ok none
      else
        match data with
        | none => return .error (.invalidArgument .updateDataMissing)
        | some bytes =>
          if bytes.size < length.toNat then
            return .error (.invalidArgument (.updateDataShort bytes.size length.toNat))
          else do
            let last ← bytes.index? length.toNat
            let payload ← bytes.range? 0 last
            return .ok (some ⟨record, offset.toNat, payload⟩)

/-- Sends an upload through the staging ring, step by step. -/
def uploadStaged? (ring : StagingRing) (buffer : BufferId) (upload : Upload)
    (serial : FrameSerial) (device : δ) : Option (Except Fault Unit × StagingRing × δ) := do
  match ← ring.reserve? upload.bytes.size serial device with
  | (.error fault, ring, device) => return (.error fault, ring, device)
  | (.ok (staging, offset), ring, device) =>
    match Device.writeBuffer staging offset upload.bytes device with
    | (.error fault, device) => return (.error (.ofDevice fault), ring, device)
    | (.ok (), device) =>
      match Device.copyBuffer staging offset buffer upload.offset upload.bytes.size device with
      | (.error fault, device) => return (.error (.ofDevice fault), ring, device)
      | (.ok (), device) => return (.ok (), ring, device)

/-- An update, step by step. -/
def update? (a : BufferAllocator) (handle : BufferHandle) (offset : ℤ) (data : Option Bytes)
    (length : ℤ) (serial : FrameSerial) (device : δ) :
    Option (Except Fault Unit × BufferAllocator × δ) := do
  match ← a.checkUpdate? handle offset data length with
  | .error fault => return (.error fault, a, device)
  | .ok none => return (.ok (), a, device)
  | .ok (some update) =>
    let slot ← update.record.activeOffset? serial
    let start ← Word.add? slot update.offset
    let (upload, record) ← update.record.stage? start update.payload (granule device)
    let a := { a with records := a.records.insert handle record }
    match record.usage with
    | .unchanging =>
      match Device.writeBuffer record.buffer upload.offset upload.bytes device with
      | (.ok (), device) => return (.ok (), a, device)
      | (.error fault, device) => return (.error (.ofDevice fault), a, device)
    | .changing =>
      let (result, ring, device) ← uploadStaged? a.ring record.buffer upload serial device
      return (result, { a with ring }, device)

/-- The range that draws of a frame read, step by step. -/
def binding? (a : BufferAllocator) (handle : BufferHandle) (serial : FrameSerial) :
    Option (Except Fault BufferBinding) :=
  match a.find handle with
  | .ok record => do
    let binding ← record.binding? serial
    return .ok binding
  | .error fault => some (.error fault)

/-- Bounded records, and a ring of whole granules. -/
structure Bounded (a : BufferAllocator) : Prop where
  record : ∀ handle r, a.records.get? handle = some r → r.Bounded
  ring : a.ring.Level

variable {a : BufferAllocator}

lemma binding?_eq (ha : a.Bounded) (handle : BufferHandle) (serial : FrameSerial) :
    a.binding? handle serial = some (a.binding handle serial) := by
  rw [binding?, binding]
  rcases a.find_cases handle with ⟨r, hlive, hfind⟩ | ⟨-, hfind⟩
  · rw [hfind]
    dsimp only
    rw [BufferRecord.binding?_eq (ha.record handle r hlive)]
    rfl
  · rw [hfind]

lemma checkUpdate?_eq (a : BufferAllocator) (handle : BufferHandle) {offset length : ℤ}
    (hoffset : offset < 2 ^ 63) (hlength : length < 2 ^ 63) (data : Option Bytes) :
    a.checkUpdate? handle offset data length = some (a.checkUpdate handle offset data length) := by
  have hsum : offset.toNat + length.toNat < Word.range := by
    rw [Word.range]
    omega
  rw [checkUpdate?, checkUpdate]
  by_cases hnegative : offset < 0 ∨ length < 0
  · rw [if_pos hnegative, if_pos hnegative]
  rw [if_neg hnegative, if_neg hnegative]
  cases a.find handle with
  | error fault => rfl
  | ok record =>
    dsimp only
    rw [Word.add?_eq hsum]
    simp only [Option.bind_eq_bind, Option.bind_some]
    by_cases hrange : record.size < offset.toNat + length.toNat
    · rw [if_pos hrange, if_pos hrange]
      rfl
    rw [if_neg hrange, if_neg hrange]
    by_cases hzero : length = 0
    · rw [if_pos hzero, if_pos hzero]
      rfl
    rw [if_neg hzero, if_neg hzero]
    cases data with
    | none => rfl
    | some bytes =>
      dsimp only
      by_cases hshort : bytes.size < length.toNat
      · rw [if_pos hshort, if_pos hshort]
        rfl
      rw [if_neg hshort, if_neg hshort, Bytes.index?_eq (not_lt.mp hshort), Option.bind_some,
        Bytes.range?_eq (Nat.zero_le _) (not_lt.mp hshort)]
      rfl

lemma uploadStaged?_eq {ring : StagingRing} (hring : ring.Level) (buffer : BufferId)
    {upload : Upload} (hupload : upload.bytes.size ≤ 2 ^ 63) (serial : FrameSerial) (d : δ) :
    uploadStaged? ring buffer upload serial d =
      some (uploadStaged ring buffer upload serial d) := by
  rw [uploadStaged?, StagingRing.reserve?_eq hring hupload, uploadStaged]
  simp only [Option.bind_eq_bind, Option.bind_some]
  rcases ring.reserve upload.bytes.size serial d with ⟨fault | ⟨staging, offset⟩, ring, d₁⟩
  · rfl
  dsimp only
  rcases Device.writeBuffer staging offset upload.bytes d₁ with ⟨fault | _, d₂⟩
  · rfl
  dsimp only
  rcases Device.copyBuffer staging offset buffer upload.offset upload.bytes.size d₂ with
    ⟨fault | _, d₃⟩
  · rfl
  · rfl

/-- An upload leaves the ring as its reservation does. -/
lemma uploadStaged_level {ring : StagingRing} (hring : ring.Level) (buffer : BufferId)
    {upload : Upload} (hupload : upload.bytes.size ≤ 2 ^ 63) (serial : FrameSerial) (d : δ) :
    (uploadStaged ring buffer upload serial d).2.1.Level := by
  have hlevel := hring.reserve hupload serial d
  have hcourse := uploadStaged_course ring buffer upload serial d
  generalize uploadStaged ring buffer upload serial d = out at hcourse ⊢
  cases hcourse with
  | unreserved hreserve | unwritten hreserve | uncopied hreserve | sent hreserve =>
    rw [hreserve] at hlevel
    exact hlevel

/-- What an update does: the allocator stays as it is, or the record gets another shadow and the
ring moves on. No step fails. -/
lemma update_checked (ha : a.Bounded) (handle : BufferHandle) {offset length : ℤ}
    (hoffset : offset < 2 ^ 63) (hlength : length < 2 ^ 63) (data : Option Bytes)
    (serial : FrameSerial) (d : δ) :
    a.update? handle offset data length serial d =
        some (a.update handle offset data length serial d) ∧
      ((a.update handle offset data length serial d).2.1 = a ∨
        ∃ r r' ring, a.records.get? handle = some r ∧ r' = { r with shadow := r'.shadow } ∧
          r'.Bounded ∧ ring.Level ∧ (a.update handle offset data length serial d).2.1 =
            { a with records := a.records.insert handle r', ring := ring }) := by
  have hcheck := a.checkUpdate?_eq handle hoffset hlength data
  rw [update?, hcheck, update]
  simp only [Option.bind_eq_bind, Option.bind_some]
  rcases a.checkUpdate_cases handle offset data length with
    ⟨fault, hcase, -⟩ | ⟨hcase, -, -⟩ | ⟨r, payload, hcase, -, -, hasked⟩
  · rw [hcase]
    exact ⟨rfl, .inl rfl⟩
  · rw [hcase]
    exact ⟨rfl, .inl rfl⟩
  · have hr := ha.record handle r hasked.live
    have hinside := hasked.inside
    have hstart : r.activeOffset serial + (offset.toNat + payload.size) ≤ r.total :=
      hr.slot_add_le (r.activeSlot_lt serial) hinside
    rw [← Nat.add_assoc] at hstart
    have htotal := hr.total_lt
    have hpayload : payload.size ≤ 2 ^ 63 := by
      rw [hasked.size]
      omega
    have hbounded := hr.stage (granule d) hstart
    have hupload := BufferRecord.size_stage_le hr (granule d) hstart hpayload
    rw [hcase]
    simp only [BufferRecord.activeOffset?_eq hr, Option.bind_some,
      Word.add?_eq (show r.activeOffset serial + offset.toNat < Word.range by omega),
      BufferRecord.stage?_eq hr (granule_pos d) hstart]
    rcases hstage : r.stage (r.activeOffset serial + offset.toNat) payload (granule d) with
      ⟨upload, r'⟩
    have hrecord := BufferRecord.stage_record hstage
    rw [hstage] at hbounded hupload
    dsimp only at hbounded hupload ⊢
    cases r'.usage with
    | unchanging =>
      dsimp only
      rcases Device.writeBuffer r'.buffer upload.offset upload.bytes d with ⟨fault | _, d₁⟩
      · exact ⟨rfl, .inr ⟨r, r', a.ring, hasked.live, hrecord, hbounded, ha.ring, rfl⟩⟩
      · exact ⟨rfl, .inr ⟨r, r', a.ring, hasked.live, hrecord, hbounded, ha.ring, rfl⟩⟩
    | changing =>
      have hring := uploadStaged_level ha.ring r'.buffer hupload serial d
      rw [uploadStaged?_eq ha.ring r'.buffer hupload serial d]
      exact ⟨rfl, .inr ⟨r, r', _, hasked.live, hrecord, hbounded, hring, rfl⟩⟩

end BufferAllocator

end RenderBridge
