import RenderBridge.Proofs.Buffer.Allocator
import RenderBridge.Proofs.Fault
/-!
What the buffers of a context ask of the memory of a device.

* `MemoryContract`: what a device has to promise. Nothing is promised for a write or a copy that is
  empty or leaves a buffer, or for a copy inside one buffer.
* `StagingRing.reserve_keeps`, `BufferAllocator.uploadStaged_keeps`, `fill_keeps`: each step of the
  buffers asks only for what is promised.
* `BufferAllocator.create_keeps`, `update_keeps`, `destroy_keeps`: **every operation on buffers**
  keeps to the contract, so that no alignment is ever refused.
-/

set_option autoImplicit false

namespace RenderBridge

variable {δ P D : Type} [Device δ P D]

/-- What a device promises of its memory, where `K` says which buffers were made on it, and how
long. Nothing is promised of a write or a copy that is empty or leaves a buffer, or of a copy inside
one buffer. The device works in granules of more than one byte. -/
structure MemoryContract (K : Heap → δ → Prop) : Prop where
  granule : ∀ {h d}, K h d → BufferAllocator.granule d = h.granule
  coarse : ∀ {h d}, K h d → h.granule ≠ 1
  create : ∀ {h d} (size : ℕ) (label : Option String), K h d →
    (∃ d', Device.createBuffer size label d = (.ok (h.created + 1), d') ∧
        K (h.allocate size) d') ∨
      ∃ fault d', Device.createBuffer size label d = (.error fault, d') ∧ K h d' ∧
        fault.cause.IsAlignment = false
  release : ∀ {h d} (id : BufferId), K h d → K h (Device.releaseBuffer id d)
  write : ∀ {h d id offset} {bytes : Bytes}, K h d → h.Fits id offset bytes.size →
    0 < bytes.size → ∃ answer d', Device.writeBuffer id offset bytes d = (answer, d') ∧ K h d' ∧
      ∀ fault, answer = .error fault → fault.cause.IsAlignment = false
  copy : ∀ {h d source sourceOffset target targetOffset length}, K h d →
    h.Fits source sourceOffset length → h.Fits target targetOffset length → 0 < length →
      source ≠ target →
        ∃ answer d', Device.copyBuffer source sourceOffset target targetOffset length d =
          (answer, d') ∧ K h d' ∧ ∀ fault, answer = .error fault → fault.cause.IsAlignment = false

variable {K : Heap → δ → Prop} {h : Heap} {d d' : δ}

namespace MemoryContract

variable (hK : MemoryContract K) (hd : K h d)
include hK hd

lemma created {size : ℕ} {label : Option String} {id : BufferId}
    (hcall : Device.createBuffer size label d = (.ok id, d')) :
    id = h.created + 1 ∧ K (h.allocate size) d' := by
  rcases hK.create size label hd with ⟨_, hok, hd'⟩ | ⟨_, _, herror, -⟩
  · cases hcall.symm.trans hok
    exact ⟨rfl, hd'⟩
  · cases hcall.symm.trans herror

lemma uncreated {size : ℕ} {label : Option String} {fault : DeviceFault}
    (hcall : Device.createBuffer size label d = (.error fault, d')) :
    K h d' ∧ fault.cause.IsAlignment = false := by
  rcases hK.create size label hd with ⟨_, hok, -⟩ | ⟨_, _, herror, hd', haligned⟩
  · cases hcall.symm.trans hok
  · cases hcall.symm.trans herror
    exact ⟨hd', haligned⟩

lemma written {id : BufferId} {offset : ℕ} {bytes : Bytes} {answer : Except DeviceFault Unit}
    (hfits : h.Fits id offset bytes.size) (hpos : 0 < bytes.size)
    (hcall : Device.writeBuffer id offset bytes d = (answer, d')) :
    K h d' ∧ ∀ fault, answer = .error fault → fault.cause.IsAlignment = false := by
  obtain ⟨_, _, hwrite, hafter⟩ := hK.write hd hfits hpos
  cases hcall.symm.trans hwrite
  exact hafter

lemma copied {source target : BufferId} {sourceOffset targetOffset length : ℕ}
    {answer : Except DeviceFault Unit} (hsource : h.Fits source sourceOffset length)
    (htarget : h.Fits target targetOffset length) (hpos : 0 < length) (hne : source ≠ target)
    (hcall : Device.copyBuffer source sourceOffset target targetOffset length d = (answer, d')) :
    K h d' ∧ ∀ fault, answer = .error fault → fault.cause.IsAlignment = false := by
  obtain ⟨_, _, hcopy, hafter⟩ := hK.copy hd hsource htarget hpos hne
  cases hcall.symm.trans hcopy
  exact hafter

end MemoryContract

/-- Buffers are only added. -/
abbrev Heap.Grows (h h' : Heap) : Prop := Heap.Frame (fun _ => True) h h'

/-- What an operation on the memory leaves: maybe more buffers, and no alignment that was
refused. -/
structure KeepsContract {α : Type} (K : Heap → δ → Prop) (h h' : Heap) (d' : δ)
    (answer : Except Fault α) : Prop where
  kept : K h' d'
  grows : h.Grows h'
  aligned : ∀ fault, answer = .error fault → fault.IsAlignment = false

namespace KeepsContract

variable {α β : Type} {h' h'' : Heap} {d' : δ}

lemma refl {answer : Except Fault α} (hd : K h d)
    (haligned : ∀ fault, answer = .error fault → fault.IsAlignment = false) :
    KeepsContract K h h d answer := ⟨hd, .refl _ _, haligned⟩

lemma ok {value : α} (hd : K h d) : KeepsContract K h h d (.ok value : Except Fault α) := by
  refine .refl hd fun fault heq => ?_
  cases heq

/-- A call that a device refuses. -/
lemma ofDevice {fault : DeviceFault} (hd : K h d) (haligned : fault.cause.IsAlignment = false) :
    KeepsContract K h h d (.error (.ofDevice fault) : Except Fault α) := by
  refine .refl hd fun fault' heq => ?_
  cases heq
  rw [Fault.isAlignment_ofDevice]
  exact haligned

/-- An earlier step that only added buffers. -/
lemma after {answer : Except Fault α} (hf : h.Grows h') (hk : KeepsContract K h' h'' d' answer) :
    KeepsContract K h h'' d' answer := ⟨hk.kept, hf.trans hk.grows, hk.aligned⟩

end KeepsContract

/-! ### The staging ring -/

namespace StagingRing

variable {r : StagingRing}

lemma releaseOutgrown_keeps (hK : MemoryContract K) (hd : K h d) (before after : StagingRing) :
    K h (releaseOutgrown before after d) := by
  rw [releaseOutgrown]
  split
  · exact hK.release _ hd
  · exact hd

/-- The ring's buffer is there, or is made, or cannot be made. -/
lemma ensureBuffer_keeps (hK : MemoryContract K) (hd : K h d) (hr : r.Laid h) :
    ∃ answer ring h' d', r.ensureBuffer d = (answer, ring, d') ∧
      KeepsContract K h h' d' answer ∧ ring.Laid h' ∧
      ((∃ buffer, answer = .ok buffer ∧ ring.buffer = some buffer ∧ ring.capacity = r.capacity ∧
          (r.buffer = some buffer ∨ h.created < buffer)) ∨
        ((∃ fault, answer = .error fault) ∧ ring.buffer = none)) := by
  have hcourse := r.ensureBuffer_course d
  generalize r.ensureBuffer d = out at hcourse ⊢
  cases hcourse with
  | held hbuffer =>
    exact ⟨_, r, h, d, rfl, .ok hd, hr, .inl ⟨_, rfl, hbuffer, rfl, .inl hbuffer⟩⟩
  | refused hnone hcall =>
    obtain ⟨hd', haligned⟩ := hK.uncreated hd hcall
    exact ⟨_, r, h, _, rfl, .ofDevice hd' haligned, hr, .inr ⟨⟨_, rfl⟩, hnone⟩⟩
  | made hnone hcall =>
    obtain ⟨rfl, hd'⟩ := hK.created hd hcall
    have hgrows := h.frame_allocate r.capacity
    have hlaid := hr.frame hgrows fun _ _ => trivial
    refine ⟨_, _, _, _, rfl, .after hgrows (.ok hd'), ?_,
      .inl ⟨_, rfl, rfl, rfl, .inr (Nat.lt_succ_self _)⟩⟩
    refine ⟨hlaid.capacity_lt, hlaid.granule_dvd, hlaid.cursor_le, fun buffer hsome => ?_⟩
    cases hsome
    rw [Heap.contents_allocate, if_pos rfl, Bytes.size_zeros]
    exact ⟨le_rfl, rfl⟩

/-- A reservation of whole granules lies in the ring's buffer, the old one or a new one. -/
theorem reserve_keeps (hK : MemoryContract K) (hd : K h d) (hr : r.Laid h)
    (hpow : ∃ k < 64, h.granule = 2 ^ k) {length : ℕ} (hdvd : h.granule ∣ length)
    (hlength : length ≤ 2 ^ 56) (serial : FrameSerial) :
    ∃ answer ring h' d', r.reserve length serial d = (answer, ring, d') ∧
      KeepsContract K h h' d' answer ∧ ring.Laid h' ∧
      (∀ staging, ring.buffer = some staging → r.buffer = some staging ∨ h.created < staging) ∧
      ∀ staging offset, answer = .ok (staging, offset) →
        ring.buffer = some staging ∧ h'.Fits staging offset length := by
  obtain ⟨offset, settled, hsettle, hlaid, hoffset, hfits, hbuffer⟩ :=
    settle_cases hr hpow hdvd hlength serial
  obtain ⟨answer, ring, h', d', hcall, hkeeps, hring, hwhich⟩ :=
    ensureBuffer_keeps hK (releaseOutgrown_keeps hK hd r settled) hlaid
  rw [reserve, hsettle]
  dsimp only
  rw [hcall]
  rcases hwhich with ⟨buffer, rfl, hstaging, hcapacity, hold⟩ | ⟨⟨fault, rfl⟩, hnone⟩
  · refine ⟨_, ring, h', d', rfl, ⟨hkeeps.kept, hkeeps.grows, ?_⟩, hring, ?_, ?_⟩
    · rintro _ ⟨⟩
    · intro staging hsome
      cases hstaging.symm.trans hsome
      refine hold.imp_left fun hsome => ?_
      rcases hbuffer with hsame | hgone
      · rw [← hsame, hsome]
      · rw [hgone] at hsome
        cases hsome
    · rintro _ _ ⟨⟩
      refine ⟨hstaging, ?_, ?_, ?_⟩
      · rw [hkeeps.grows.granule]
        exact hoffset
      · rw [hkeeps.grows.granule]
        exact hdvd
      · rw [(hring.made buffer hstaging).2, hcapacity]
        exact hfits
  · refine ⟨_, ring, h', d', rfl, ⟨hkeeps.kept, hkeeps.grows, ?_⟩, hring, ?_, ?_⟩
    · rintro _ ⟨⟩
      exact hkeeps.aligned fault rfl
    · intro staging hsome
      rw [hnone] at hsome
      cases hsome
    · rintro _ _ ⟨⟩

end StagingRing

namespace BufferAllocator

/-! ### Updating -/

/-- An upload through the ring is written into it and copied out of it. -/
lemma uploadStaged_keeps (hK : MemoryContract K) (hd : K h d) {ring : StagingRing}
    {buffer : BufferId} {upload : Upload} (hring : ring.Laid h)
    (hpow : ∃ k < 64, h.granule = 2 ^ k) (hmade : buffer ≤ h.created)
    (hapart : ring.buffer ≠ some buffer) (hfits : h.Fits buffer upload.offset upload.bytes.size)
    (hpos : 0 < upload.bytes.size) (hlength : upload.bytes.size ≤ 2 ^ 56) (serial : FrameSerial) :
    ∃ answer ring' h' d', uploadStaged ring buffer upload serial d = (answer, ring', d') ∧
      KeepsContract K h h' d' answer ∧ ring'.Laid h' ∧
      ∀ staging, ring'.buffer = some staging →
        ring.buffer = some staging ∨ h.created < staging := by
  obtain ⟨answer, ring', h', d₁, hreserve, hkeeps, hring', hwhich, hplace⟩ :=
    StagingRing.reserve_keeps hK hd hring hpow hfits.length_dvd hlength serial
  have hfitsBuffer : h'.Fits buffer upload.offset upload.bytes.size :=
    hfits.frame hkeeps.grows hmade trivial
  have hne : ∀ staging, ring'.buffer = some staging → staging ≠ buffer := by
    rintro staging hstaging rfl
    rcases hwhich staging hstaging with hold | hnew
    · exact hapart hold
    · exact absurd hmade (Nat.not_le_of_lt hnew)
  have hcourse := uploadStaged_course ring buffer upload serial d
  generalize uploadStaged ring buffer upload serial d = out at hcourse ⊢
  cases hcourse with
  | unreserved hfailed =>
    cases hfailed.symm.trans hreserve
    refine ⟨_, ring', h', _, rfl, ⟨hkeeps.kept, hkeeps.grows, ?_⟩, hring', hwhich⟩
    rintro _ ⟨⟩
    exact hkeeps.aligned _ rfl
  | unwritten hreserved hwrite =>
    cases hreserved.symm.trans hreserve
    obtain ⟨hstaging, hfits₁⟩ := hplace _ _ rfl
    obtain ⟨hd₂, hwritten⟩ := hK.written hkeeps.kept hfits₁ hpos hwrite
    exact ⟨_, ring', h', _, rfl, .after hkeeps.grows (.ofDevice hd₂ (hwritten _ rfl)), hring',
      hwhich⟩
  | uncopied hreserved hwrite hcopy =>
    cases hreserved.symm.trans hreserve
    obtain ⟨hstaging, hfits₁⟩ := hplace _ _ rfl
    obtain ⟨hd₂, -⟩ := hK.written hkeeps.kept hfits₁ hpos hwrite
    obtain ⟨hd₃, hcopied⟩ := hK.copied hd₂ hfits₁ hfitsBuffer hpos (hne _ hstaging) hcopy
    exact ⟨_, ring', h', _, rfl, .after hkeeps.grows (.ofDevice hd₃ (hcopied _ rfl)), hring',
      hwhich⟩
  | sent hreserved hwrite hcopy =>
    cases hreserved.symm.trans hreserve
    obtain ⟨hstaging, hfits₁⟩ := hplace _ _ rfl
    obtain ⟨hd₂, -⟩ := hK.written hkeeps.kept hfits₁ hpos hwrite
    obtain ⟨hd₃, -⟩ := hK.copied hd₂ hfits₁ hfitsBuffer hpos (hne _ hstaging) hcopy
    exact ⟨_, ring', h', _, rfl, .after hkeeps.grows (.ok hd₃), hring', hwhich⟩

/-- An update is not refused for its alignment. -/
lemma checkUpdate_aligned {a : BufferAllocator} {handle : BufferHandle} {offset length : ℤ}
    {data : Option Bytes} {fault : Fault}
    (herror : a.checkUpdate handle offset data length = .error fault) :
    fault.IsAlignment = false := by
  rw [checkUpdate] at herror
  split at herror
  · cases herror
    rfl
  · rcases a.find_cases handle with ⟨r, -, hfind⟩ | ⟨-, hfind⟩
    · rw [hfind] at herror
      dsimp only at herror
      split_ifs at herror
      · cases herror
        rfl
      · cases data with
        | none =>
          cases herror
          rfl
        | some bytes =>
          dsimp only at herror
          split_ifs at herror
          cases herror
          rfl
    · rw [hfind] at herror
      cases herror
      rfl

omit [Device δ P D] in
/-- The upload of some bytes is not empty. -/
lemma Stage.upload_pos {a : BufferAllocator} {handle : BufferHandle} {offset length : ℤ}
    {data : Option Bytes} {serial : FrameSerial} {r r' : BufferRecord} {payload : Bytes}
    {upload : Upload} (hs : a.Stage handle offset data length serial h.granule r r' payload upload)
    (hstaged : BufferRecord.Staged h r r' (r.activeOffset serial + offset.toNat) payload upload) :
    0 < upload.bytes.size := by
  obtain ⟨-, -, -, hnonneg, -⟩ := hs.accepts
  have hcovers := hstaged.widened.covers
  have hpayload := hs.asked.size
  have hlength := hs.length_ne
  omega

/-- An update keeps to the contract: what it writes is widened to whole granules of its slot. -/
theorem update_keeps (hK : MemoryContract K) (hd : K h d) {a : BufferAllocator} (ha : a.Laid h)
    (handle : BufferHandle) (offset : ℤ) (data : Option Bytes) (length : ℤ)
    (serial : FrameSerial) :
    ∃ answer a' h' d', a.update handle offset data length serial d = (answer, a', d') ∧
      KeepsContract K h h' d' answer ∧ a'.Laid h' := by
  have hcourse := a.update_course handle offset data length serial d
  generalize a.update handle offset data length serial d = out at hcourse ⊢
  cases hcourse with
  | refused hcheck =>
    refine ⟨_, a, h, d, rfl, .refl hd ?_, ha⟩
    rintro _ ⟨⟩
    exact checkUpdate_aligned hcheck
  | empty => exact ⟨_, a, h, d, rfl, .ok hd, ha⟩
  | unwritten hs _ hwrite =>
    rw [hK.granule hd] at hs
    obtain ⟨hstaged, hfits, -⟩ := hs.staged ha
    rw [hs.buffer_eq] at hwrite
    obtain ⟨hd', haligned⟩ := hK.written hd hfits (hs.upload_pos hstaged) hwrite
    exact ⟨_, _, h, _, rfl, .ofDevice hd' (haligned _ rfl), ha.update hs.asked.live hs.buffer_eq
      hstaged.laid ha.ring (fun _ h => .inl h) (.refl _ h)⟩
  | written hs _ hwrite =>
    rw [hK.granule hd] at hs
    obtain ⟨hstaged, hfits, -⟩ := hs.staged ha
    rw [hs.buffer_eq] at hwrite
    obtain ⟨hd', -⟩ := hK.written hd hfits (hs.upload_pos hstaged) hwrite
    exact ⟨_, _, h, _, rfl, .ok hd', ha.update hs.asked.live hs.buffer_eq hstaged.laid ha.ring
      (fun _ h => .inl h) (.refl _ h)⟩
  | staged hs _ hsend =>
    rw [hK.granule hd] at hs
    obtain ⟨hstaged, hfits, -, -, hlength, hapart⟩ := hs.staged ha
    rw [hs.buffer_eq] at hsend
    obtain ⟨_, _, h', _, hcall, hkeeps, hring', hwhich⟩ := uploadStaged_keeps hK hd ha.ring
      ha.granule_pow (ha.record handle _ hs.asked.live).made hapart hfits (hs.upload_pos hstaged)
      hlength serial
    cases hsend.symm.trans hcall
    exact ⟨_, _, h', _, rfl, hkeeps, ha.update hs.asked.live hs.buffer_eq
      (hstaged.laid.frame hkeeps.grows trivial) hring' hwhich
      (hkeeps.grows.mono fun _ _ _ => trivial)⟩

/-! ### Creating -/

/-- The first contents of slots are written in whole granules. -/
lemma writeSlots_keeps (hK : MemoryContract K) {bytes : Bytes} (hpos : 0 < bytes.size)
    (slots : List ℕ) {r : BufferRecord} (hd : K h d) (hr : r.Laid h) (hbytes : bytes.size ≤ r.size)
    (hslots : ∀ slot ∈ slots, slot < r.slotCount) :
    ∃ answer d', writeSlots bytes slots r d = (answer, d') ∧ KeepsContract K h h d' answer ∧
      ∀ r', answer = .ok r' → r'.Laid h := by
  induction slots generalizing r d with
  | nil =>
    refine ⟨_, d, rfl, .ok hd, ?_⟩
    rintro _ ⟨⟩
    exact hr
  | cons slot rest ih =>
    have hslot := hslots slot List.mem_cons_self
    have hsize := hr.size_le
    have hend := BufferRecord.slotOffset_add_le hslot
    obtain ⟨upload, r₁, hstage, hstaged⟩ :=
      BufferRecord.stage_cases hr (show r.slotOffset slot + bytes.size ≤ r.total by omega)
    obtain ⟨-, hfits⟩ := hstaged.fits hr hslot le_rfl (by omega)
    have hcovers := hstaged.widened.covers
    obtain ⟨answer, d₁, hcall, hd₁, haligned⟩ := hK.write hd hfits (by omega)
    have hbuffer : r₁.buffer = r.buffer := by rw [hstaged.record]
    have hcount : r₁.slotCount = r.slotCount := by rw [hstaged.record]; rfl
    have hsize₁ : r₁.size = r.size := by rw [hstaged.record]
    rw [writeSlots, hK.granule hd, hstage]
    dsimp only
    rw [hbuffer, hcall]
    cases answer with
    | error fault => exact ⟨_, d₁, rfl, .ofDevice hd₁ (haligned fault rfl), by rintro _ ⟨⟩⟩
    | ok _ =>
      exact ih hd₁ hstaged.laid (by rw [hsize₁]; exact hbytes)
        fun s hs => by rw [hcount]; exact hslots s (List.mem_cons_of_mem _ hs)

/-- A device that works in granules has a shadow made; that is refused where memory has no room. -/
lemma newShadow_coarse (host : HostMemory) {granule : ℕ} (hpos : 0 < granule)
    (hcoarse : granule ≠ 1) (total : ℕ) :
    (newShadow host granule total = .ok (some (Bytes.zeros total)) ∧ total < 2 ^ 56) ∨
      ∃ fault, newShadow host granule total = .error fault ∧ fault.IsAlignment = false := by
  rw [newShadow, if_neg (by omega)]
  cases hroom : host.room total with
  | granted => exact .inl ⟨rfl, HostMemory.lt_of_granted hroom⟩
  | tooLong => exact .inr ⟨_, rfl, rfl⟩
  | exhausted => exact .inr ⟨_, rfl, rfl⟩

/-- The shadow and the first contents of a new buffer. -/
lemma fill_keeps (hK : MemoryContract K) (hd : K h d) (host : HostMemory) {r : BufferRecord}
    (data : Option Bytes) (hpos : 0 < r.size)
    (hslot : r.total < 2 ^ 56 → r.size ≤ r.slotSize ∧ h.granule ∣ r.slotSize)
    (hmade : r.buffer ≤ h.created) (hcontents : (h.contents r.buffer).size = r.total)
    (hdata : (data.getD #[]).size ≤ r.size) :
    ∃ answer d', fill host r data d = (answer, d') ∧ KeepsContract K h h d' answer ∧
      ∀ r', answer = .ok r' → r'.Laid h := by
  have hcourse := fill_course host r data d
  generalize fill host r data d = out at hcourse ⊢
  rcases newShadow_coarse host h.granule_pos (hK.coarse hd) r.total with
    ⟨hnew, htotal⟩ | ⟨fault, hnew, haligned⟩
  · have hlaid : BufferRecord.Laid h { r with shadow := some (Bytes.zeros r.total) } :=
      { size_pos := hpos
        size_le := (hslot htotal).1
        granule_dvd := (hslot htotal).2
        total_lt := htotal
        contents_size := hcontents
        made := hmade
        shadow_none := by rintro ⟨⟩
        shadow_size := by
          rintro _ ⟨⟩
          exact Bytes.size_zeros _ }
    rw [← hK.granule hd] at hnew
    cases hcourse with
    | unshadowed hshadow => cases hshadow.symm.trans hnew
    | blank hshadow =>
      cases hshadow.symm.trans hnew
      refine ⟨_, d, rfl, .ok hd, ?_⟩
      rintro _ ⟨⟩
      exact hlaid
    | written hshadow hbytes hwrite =>
      cases hshadow.symm.trans hnew
      rw [← hwrite]
      exact writeSlots_keeps hK hbytes _ hd hlaid hdata fun slot hslot => List.mem_range.mp hslot
  · rw [← hK.granule hd] at hnew
    cases hcourse with
    | unshadowed hshadow =>
      cases hshadow.symm.trans hnew
      refine ⟨_, d, rfl, .refl hd ?_, by rintro _ ⟨⟩⟩
      rintro _ ⟨⟩
      exact haligned
    | blank hshadow => cases hshadow.symm.trans hnew
    | written hshadow => cases hshadow.symm.trans hnew

/-- A creation is not refused for its alignment. -/
lemma checkCreate_aligned {usage : BufferUsage} {size : ℤ} {data : Option Bytes} {granule : ℕ}
    {fault : Fault} (herror : checkCreate usage size data granule = .error fault) :
    fault.IsAlignment = false := by
  rw [checkCreate] at herror
  dsimp only at herror
  split_ifs at herror <;>
    · cases herror
      rfl

/-- A new allocation that is filled. -/
lemma fill_new_keeps {host : HostMemory} (hK : MemoryContract K) (hd : K h d)
    (hpow : ∃ k < 64, h.granule = 2 ^ k)
    {usage : BufferUsage} {size : ℤ} {data : Option Bytes} {slotSize : ℕ} {label : Option String}
    {buffer : BufferId} {answer : Except Fault BufferRecord} {d₁ d₂ : δ}
    (hcheck : checkCreate usage size data (granule d) = .ok slotSize)
    (hcall : Device.createBuffer (slotSize * usage.slotCount) label d = (.ok buffer, d₁))
    (hfill : fill host ⟨usage, size.toNat, slotSize, buffer, none⟩ data d₁ = (answer, d₂)) :
    buffer = h.created + 1 ∧
      KeepsContract K h (h.allocate (slotSize * usage.slotCount)) d₂ answer ∧
      ∀ r, answer = .ok r → r.Laid (h.allocate (slotSize * usage.slotCount)) := by
  obtain ⟨rfl, hd₁⟩ := hK.created hd hcall
  rw [hK.granule hd] at hcheck
  obtain ⟨hpos, hdata, rfl⟩ := checkCreate_ok hcheck
  obtain ⟨k, hk, hgranule⟩ := hpow
  have hgrows := h.frame_allocate (usage.slotSize size.toNat h.granule * usage.slotCount)
  obtain ⟨_, _, hfilled, hkeeps, hlaid⟩ := fill_keeps hK hd₁ host
    (r := ⟨usage, size.toNat, _, h.created + 1, none⟩) data hpos
    (fun htotal => by rw [hgrows.granule]; exact usage.slotSize_cases hk hgranule htotal) le_rfl
    (by rw [Heap.contents_allocate, if_pos rfl, Bytes.size_zeros]; rfl) hdata
  cases hfill.symm.trans hfilled
  exact ⟨rfl, .after hgrows hkeeps, hlaid⟩

/-- A creation keeps to the contract, whether the buffer is taken in or given back. -/
theorem create_keeps (hK : MemoryContract K) (hd : K h d) {a : BufferAllocator} (ha : a.Laid h)
    (usage : BufferUsage) (size : ℤ) (data : Option Bytes) (host : HostMemory) :
    ∃ answer a' h' d', a.create usage size data d host = (answer, a', d') ∧
      KeepsContract K h h' d' answer ∧ a'.Laid h' := by
  have hcourse := a.create_course usage size data d host
  generalize a.create usage size data d host = out at hcourse ⊢
  cases hcourse with
  | refused hcheck =>
    refine ⟨_, a, h, d, rfl, .refl hd ?_, ha⟩
    rintro _ ⟨⟩
    exact checkCreate_aligned hcheck
  | unallocated _ hcall =>
    obtain ⟨hd', haligned⟩ := hK.uncreated hd hcall
    exact ⟨_, a, h, _, rfl, .ofDevice hd' haligned, ha⟩
  | unfilled hcheck hcall hfill =>
    obtain ⟨-, hkeeps, -⟩ := fill_new_keeps hK hd ha.granule_pow hcheck hcall hfill
    refine ⟨_, a, _, _, rfl, ⟨hK.release _ hkeeps.kept, hkeeps.grows, ?_⟩, ha.frame hkeeps.grows⟩
    rintro _ ⟨⟩
    exact hkeeps.aligned _ rfl
  | unnumbered hcheck hcall hfill =>
    obtain ⟨-, hkeeps, -⟩ := fill_new_keeps hK hd ha.granule_pow hcheck hcall hfill
    refine ⟨_, a, _, _, rfl, ⟨hK.release _ hkeeps.kept, hkeeps.grows, ?_⟩, ha.frame hkeeps.grows⟩
    rintro _ ⟨⟩
    rfl
  | created hcheck hcall hfill hnumber =>
    obtain ⟨hfresh, hkeeps, hlaid⟩ := fill_new_keeps hK hd ha.granule_pow hcheck hcall hfill
    refine ⟨_, _, _, _, rfl, ⟨hkeeps.kept, hkeeps.grows, by rintro _ ⟨⟩⟩,
      ha.create hkeeps.grows ?_ (hlaid _ rfl) _ _⟩
    rw [fill_record hfill]
    exact hfresh

/-! ### Ending and binding -/

/-- The end of a buffer keeps to the contract. -/
theorem destroy_keeps (hK : MemoryContract K) (hd : K h d) {a : BufferAllocator} (ha : a.Laid h)
    (handle : BufferHandle) :
    ∃ answer a' d', a.destroy handle d = (answer, a', d') ∧ KeepsContract K h h d' answer ∧
      a'.Laid h := by
  rw [destroy]
  rcases a.find_cases handle with ⟨r, -, hfind⟩ | ⟨-, hfind⟩
  · rw [hfind]
    exact ⟨_, _, _, rfl, .ok (hK.release r.buffer hd), ha.erase handle⟩
  · rw [hfind]
    refine ⟨_, a, d, rfl, .refl hd ?_, ha⟩
    rintro _ ⟨⟩
    rfl

omit [Device δ P D] in
/-- What a draw reads of a buffer is some of it, from a whole granule on. -/
lemma Laid.binding {a : BufferAllocator} (ha : a.Laid h) {handle : BufferHandle}
    {r : BufferRecord} (hlive : a.records.get? handle = some r) (serial : FrameSerial) :
    h.granule ∣ (r.binding serial).offset ∧ 0 < (r.binding serial).size ∧
      (r.binding serial).offset + (r.binding serial).size ≤
        (h.contents (r.binding serial).buffer).size := by
  have hr := ha.record handle r hlive
  have hend := BufferRecord.slotOffset_add_le (r.activeSlot_lt serial)
  have hsize := hr.size_le
  refine ⟨hr.granule_dvd_slotOffset _, hr.size_pos, ?_⟩
  change r.slotOffset (r.activeSlot serial) + r.size ≤ (h.contents r.buffer).size
  rw [hr.contents_size]
  omega

end BufferAllocator

end RenderBridge
