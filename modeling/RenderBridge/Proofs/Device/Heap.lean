import RenderBridge.Proofs.Bytes
import RenderBridge.Proofs.Device.Faulty
import RenderBridge.Proofs.Trace
/-!
The buffer memory of a device in host memory, and what calls do to it.

* `Heap`: granule, buffers and their contents; `Heap.after`, `Heap.Admits`: the heap after a call,
  and which calls the heap by itself lets through.
* `FaultyDevice.perform_heap`: **a call that succeeds** does that to the heap; one that fails
  leaves it alone, and was made to fail or not admitted.
* `Heap.Frame`: two heaps that agree on the older buffers that are kept apart.
-/

set_option autoImplicit false

namespace RenderBridge

variable {P D : Type}

/-- The buffer memory of a device: the alignment asked for, the number of buffers ever made, and
the buffers that are there. -/
structure Heap where
  alignment : ℕ
  created : ℕ
  buffers : Table BufferId Bytes

namespace Heap

/-- What offsets and lengths are multiples of. -/
def granule (h : Heap) : ℕ := max h.alignment 1

/-- The contents of a buffer; a buffer that is gone has none. -/
def contents (h : Heap) (id : BufferId) : Bytes := (h.buffers.get? id).getD #[]

/-- The heap with a new buffer of zeros. -/
def allocate (h : Heap) (size : ℕ) : Heap where
  alignment := h.alignment
  created := h.created + 1
  buffers := h.buffers.insert (h.created + 1) (Bytes.zeros size)

/-- The heap without a buffer. -/
def release (h : Heap) (id : BufferId) : Heap := { h with buffers := h.buffers.erase id }

/-- The heap with a range of a buffer replaced. -/
def write (h : Heap) (id : BufferId) (offset : ℕ) (bytes : Bytes) : Heap :=
  { h with buffers := h.buffers.insert id ((h.contents id).overwrite offset bytes) }

lemma granule_pos (h : Heap) : 0 < h.granule := lt_of_lt_of_le Nat.one_pos (le_max_right _ _)

lemma contents_allocate (h : Heap) (size : ℕ) (id : BufferId) :
    (h.allocate size).contents id =
      if id = h.created + 1 then Bytes.zeros size else h.contents id := by
  rw [contents, allocate, Table.get?_insert]
  split
  · rfl
  · rfl

lemma contents_release (h : Heap) (id j : BufferId) :
    (h.release id).contents j = if j = id then #[] else h.contents j := by
  rw [contents, release, Table.get?_erase]
  split
  · rfl
  · rfl

lemma contents_write (h : Heap) (id : BufferId) (offset : ℕ) (bytes : Bytes) (j : BufferId) :
    (h.write id offset bytes).contents j =
      if j = id then (h.contents id).overwrite offset bytes else h.contents j := by
  rw [contents, write, Table.get?_insert]
  split
  · rfl
  · rfl

/-! ### Calls -/

/-- The heap after a call that succeeds. -/
def after (h : Heap) : Request P D → Heap
  | .createBuffer size _ => h.allocate size
  | .releaseBuffer id => h.release id
  | .writeBuffer id offset bytes => h.write id offset bytes
  | .copyBuffer source sourceOffset target targetOffset length =>
      h.write target targetOffset ((h.contents source).slice sourceOffset length)
  | _ => h

/-- A range of a buffer that may be read or written: whole granules inside it. -/
structure Fits (h : Heap) (id : BufferId) (offset length : ℕ) : Prop where
  offset_dvd : h.granule ∣ offset
  length_dvd : h.granule ∣ length
  inside : offset + length ≤ (h.contents id).size

/-- The calls that the heap by itself lets through. -/
def Admits (h : Heap) : Request P D → Prop
  | .createBuffer size _ => HostRoom.of size = .granted
  | .writeBuffer id offset bytes => h.Fits id offset bytes.size
  | .copyBuffer source sourceOffset target targetOffset length =>
      h.Fits source sourceOffset length ∧ h.Fits target targetOffset length
  | _ => True

/-- Writing inside a buffer keeps the sizes of all buffers. -/
lemma size_contents_write {h : Heap} {id : BufferId} {offset : ℕ} {bytes : Bytes}
    (hfits : h.Fits id offset bytes.size) (j : BufferId) :
    ((h.write id offset bytes).contents j).size = (h.contents j).size := by
  rw [contents_write]
  split
  · rename_i hj
    rw [hj, Bytes.size_overwrite hfits.inside]
  · rfl

/-- Writing inside a buffer keeps what may be read or written. -/
lemma Fits.write {h : Heap} {id j : BufferId} {offset offset' length : ℕ} {bytes : Bytes}
    (hfits : h.Fits id offset bytes.size) (hj : h.Fits j offset' length) :
    (h.write id offset bytes).Fits j offset' length where
  offset_dvd := hj.offset_dvd
  length_dvd := hj.length_dvd
  inside := by
    rw [size_contents_write hfits]
    exact hj.inside

/-! ### Frames -/

/-- A later heap that holds the older buffers that are kept as they were. -/
structure Frame (kept : BufferId → Prop) (h h' : Heap) : Prop where
  alignment : h'.alignment = h.alignment
  created : h.created ≤ h'.created
  contents : ∀ id, id ≤ h.created → kept id → h'.contents id = h.contents id

namespace Frame

variable {kept kept' : BufferId → Prop} {h h' h'' : Heap}

lemma refl (kept : BufferId → Prop) (h : Heap) : Frame kept h h := ⟨rfl, le_rfl, fun _ _ _ => rfl⟩

/-- Later changes may touch what was not there before. -/
lemma trans_of_imp (hf : Frame kept h h') (hf' : Frame kept' h' h'')
    (hkept : ∀ id ≤ h.created, kept id → kept' id) : Frame kept h h'' where
  alignment := hf'.alignment.trans hf.alignment
  created := hf.created.trans hf'.created
  contents id hid hk := by
    rw [hf'.contents id (hid.trans hf.created) (hkept id hid hk), hf.contents id hid hk]

lemma trans (hf : Frame kept h h') (hf' : Frame kept h' h'') : Frame kept h h'' :=
  hf.trans_of_imp hf' fun _ _ hk => hk

lemma mono (hf : Frame kept h h') (hkept : ∀ id ≤ h.created, kept' id → kept id) :
    Frame kept' h h' where
  alignment := hf.alignment
  created := hf.created
  contents id hid hk := hf.contents id hid (hkept id hid hk)

lemma granule (hf : Frame kept h h') : h'.granule = h.granule := by
  rw [Heap.granule, Heap.granule, hf.alignment]

end Frame

/-- A range of a kept buffer stays one that may be read or written. -/
lemma Fits.frame {kept : BufferId → Prop} {h h' : Heap} {id : BufferId} {offset length : ℕ}
    (hfits : h.Fits id offset length) (hf : Frame kept h h') (hmade : id ≤ h.created)
    (hkept : kept id) : h'.Fits id offset length where
  offset_dvd := by
    rw [hf.granule]
    exact hfits.offset_dvd
  length_dvd := by
    rw [hf.granule]
    exact hfits.length_dvd
  inside := by
    rw [hf.contents id hmade hkept]
    exact hfits.inside

lemma frame_allocate (h : Heap) (size : ℕ) : Frame (fun _ => True) h (h.allocate size) where
  alignment := rfl
  created := Nat.le_succ _
  contents id hid _ := by
    rw [contents_allocate, if_neg (Nat.ne_of_lt (Nat.lt_succ_of_le hid))]

lemma frame_release (h : Heap) (id : BufferId) : Frame (· ≠ id) h (h.release id) where
  alignment := rfl
  created := le_rfl
  contents j _ hj := by
    rw [contents_release, if_neg hj]

lemma frame_write (h : Heap) (id : BufferId) (offset : ℕ) (bytes : Bytes) :
    Frame (· ≠ id) h (h.write id offset bytes) where
  alignment := rfl
  created := le_rfl
  contents j _ hj := by
    rw [contents_write, if_neg hj]

end Heap

/-! ### The device without failures -/

namespace MemoryDevice

def heap (d : MemoryDevice) : Heap := ⟨d.alignment, d.created, d.buffers⟩

lemma checkGranule_eq (alignment offset length : ℕ) :
    (max alignment 1 ∣ offset ∧ max alignment 1 ∣ length ∧
        checkGranule alignment offset length = .ok ()) ∨
      (¬ (max alignment 1 ∣ offset ∧ max alignment 1 ∣ length) ∧
        ∃ fault, checkGranule alignment offset length = .error fault) := by
  rw [checkGranule]
  by_cases hone : alignment ≤ 1
  · left
    rw [max_eq_right hone, if_neg (by omega)]
    exact ⟨one_dvd _, one_dvd _, rfl⟩
  · rw [max_eq_left (by omega), Nat.dvd_iff_mod_eq_zero, Nat.dvd_iff_mod_eq_zero]
    by_cases hmod : offset % alignment = 0 ∧ length % alignment = 0
    · left
      rw [if_neg (by omega)]
      exact ⟨hmod.1, hmod.2, rfl⟩
    · right
      rw [if_pos (by omega)]
      exact ⟨hmod, _, rfl⟩

lemma createBuffer_heap (size : ℕ) (d : MemoryDevice) :
    (HostRoom.of size = .granted ∧ ∃ d', d.createBuffer size = (.ok (d.created + 1), d') ∧
        d'.heap = d.heap.allocate size) ∨
      (HostRoom.of size ≠ .granted ∧ ∃ fault, d.createBuffer size = (.error fault, d)) := by
  rw [createBuffer]
  cases hroom : HostRoom.of size with
  | granted => exact .inl ⟨rfl, _, rfl, rfl⟩
  | tooLong => exact .inr ⟨by simp, _, rfl⟩
  | exhausted => exact .inr ⟨by simp, _, rfl⟩

lemma writeBuffer_heap (id : BufferId) (offset : ℕ) (bytes : Bytes) (d : MemoryDevice) :
    (d.heap.Fits id offset bytes.size ∧ ∃ d', d.writeBuffer id offset bytes = (.ok (), d') ∧
        d'.heap = d.heap.write id offset bytes) ∨
      (¬ d.heap.Fits id offset bytes.size ∧
        ∃ fault, d.writeBuffer id offset bytes = (.error fault, d)) := by
  rw [writeBuffer]
  rcases checkGranule_eq d.alignment offset bytes.size with ⟨ho, hl, hok⟩ | ⟨hbad, fault, herr⟩
  · rw [hok]
    dsimp only
    by_cases hin : offset + bytes.size ≤ (d.contents id).size
    · rw [checkRange, if_pos hin]
      exact .inl ⟨⟨ho, hl, hin⟩, _, rfl, rfl⟩
    · rw [checkRange, if_neg hin]
      exact .inr ⟨fun h => hin h.inside, _, rfl⟩
  · rw [herr]
    exact .inr ⟨fun h => hbad ⟨h.offset_dvd, h.length_dvd⟩, fault, rfl⟩

lemma copyBuffer_heap (source : BufferId) (sourceOffset : ℕ) (target : BufferId)
    (targetOffset length : ℕ) (d : MemoryDevice) :
    ((d.heap.Fits source sourceOffset length ∧ d.heap.Fits target targetOffset length) ∧
        ∃ d', d.copyBuffer source sourceOffset target targetOffset length = (.ok (), d') ∧
          d'.heap = d.heap.write target targetOffset
            ((d.heap.contents source).slice sourceOffset length)) ∨
      (¬ (d.heap.Fits source sourceOffset length ∧ d.heap.Fits target targetOffset length) ∧
        ∃ fault, d.copyBuffer source sourceOffset target targetOffset length =
          (.error fault, d)) := by
  rw [copyBuffer]
  rcases checkGranule_eq d.alignment sourceOffset length with
    ⟨hso, hl, hok⟩ | ⟨hbad, fault, herr⟩
  · rw [hok]
    rcases checkGranule_eq d.alignment targetOffset length with
      ⟨hto, -, hok⟩ | ⟨hbad, fault, herr⟩
    · rw [hok]
      dsimp only
      by_cases hin : sourceOffset + length ≤ (d.contents source).size
      · rw [checkRange, if_pos hin]
        have hsize : ((d.contents source).slice sourceOffset length).size = length :=
          Bytes.size_slice hin
        rcases d.writeBuffer_heap target targetOffset
            ((d.contents source).slice sourceOffset length) with
          ⟨hfit, d', hd', hheap⟩ | ⟨hfit, fault, hfault⟩
        · rw [hsize] at hfit
          dsimp only
          rw [hd']
          exact .inl ⟨⟨⟨hso, hl, hin⟩, hfit⟩, _, rfl, hheap⟩
        · rw [hsize] at hfit
          dsimp only
          rw [hfault]
          exact .inr ⟨fun h => hfit h.2, fault, rfl⟩
      · rw [checkRange, if_neg hin]
        exact .inr ⟨fun h => hin h.1.inside, _, rfl⟩
    · rw [herr]
      exact .inr ⟨fun h => hbad ⟨h.2.offset_dvd, h.2.length_dvd⟩, fault, rfl⟩
  · rw [herr]
    exact .inr ⟨fun h => hbad ⟨h.1.offset_dvd, h.1.length_dvd⟩, fault, rfl⟩

/-- What a memory call does to the heap: what it says, where the heap lets it through, and
else nothing. -/
lemma perform_heap (request : HostRequest) (hkind : request.kind = .memory) (d : MemoryDevice) :
    (∃ a d', request.perform d = (.ok a, d') ∧ d.heap.Admits request ∧
        d'.heap = d.heap.after request) ∨
      (∃ fault, request.perform d = (.error fault, d) ∧ ¬ d.heap.Admits request) := by
  cases request with
  | createBuffer size label =>
    rcases d.createBuffer_heap size with ⟨hroom, d', hd', hheap⟩ | ⟨hroom, fault, hfault⟩
    · exact .inl ⟨_, d', hd', hroom, hheap⟩
    · exact .inr ⟨fault, hfault, hroom⟩
  | releaseBuffer id => exact .inl ⟨(), _, rfl, trivial, rfl⟩
  | writeBuffer id offset bytes =>
    rcases d.writeBuffer_heap id offset bytes with ⟨hfits, d', hd', hheap⟩ | ⟨hfits, fault, hfault⟩
    · exact .inl ⟨(), d', hd', hfits, hheap⟩
    · exact .inr ⟨fault, hfault, hfits⟩
  | copyBuffer source sourceOffset target targetOffset length =>
    rcases d.copyBuffer_heap source sourceOffset target targetOffset length with
      ⟨hfits, d', hd', hheap⟩ | ⟨hfits, fault, hfault⟩
    · exact .inl ⟨(), d', hd', hfits, hheap⟩
    · exact .inr ⟨fault, hfault, hfits⟩
  | _ => cases hkind

/-- No other call touches the heap. -/
lemma keeps_heap (h : Heap) {kinds : List CallKind} (hkinds : .memory ∉ kinds) :
    Keeps (fun d : MemoryDevice => d.heap = h) kinds := by
  refine keeps_of_changes fun kind hkind d d' hchanges hd => ?_
  cases hchanges with
  | memory => exact absurd hkind hkinds
  | _ => exact hd

end MemoryDevice

/-! ### The device with armed failures -/

namespace FaultyDevice

def heap (d : FaultyDevice) : Heap := d.memory.heap

lemma PowerAligned.granule_pow {d : FaultyDevice} (h : d.PowerAligned) :
    ∃ k < 64, d.heap.granule = 2 ^ k := by
  have hgranule : d.heap.granule = max d.memory.alignment 1 := rfl
  rw [hgranule]
  rcases h with hnone | ⟨k, hk, hpow⟩
  · exact ⟨0, by decide, by rw [hnone]; rfl⟩
  · exact ⟨k, hk, by rw [hpow, max_eq_left Nat.one_le_two_pow]⟩

/-- What a memory call does to the heap: where it succeeds, what it says; else nothing, and then a
failure was armed or the heap does not let it through. -/
theorem perform_heap (request : HostRequest) (hkind : request.kind = .memory) (d : FaultyDevice) :
    (∃ a d', request.perform d = (.ok a, d') ∧ d.heap.Admits request ∧
        d'.heap = d.heap.after request) ∨
      (∃ fault d', request.perform d = (.error fault, d') ∧ d'.heap = d.heap ∧
        (d.Armed request ∨ ¬ d.heap.Admits request)) := by
  rcases perform_cases request d with ⟨harmed, ⟨fault, herror⟩, hmemory⟩ | ⟨hanswer, hmemory⟩
  · exact .inr ⟨fault, _, Prod.ext herror rfl, congrArg MemoryDevice.heap hmemory, .inl harmed⟩
  · rcases d.memory.perform_heap request hkind with
      ⟨a, m, hm, hadmits, hheap⟩ | ⟨fault, hm, hadmits⟩
    · rw [hm] at hanswer hmemory
      refine .inl ⟨a, _, Prod.ext hanswer rfl, hadmits, ?_⟩
      rw [heap, hmemory, hheap]
      rfl
    · rw [hm] at hanswer hmemory
      exact .inr ⟨fault, _, Prod.ext hanswer rfl, congrArg MemoryDevice.heap hmemory, .inr hadmits⟩

/-- The buffers that are made are numbered in order. -/
lemma createBuffer_ok {size : ℕ} {label : Option String} {d : FaultyDevice} {id : BufferId}
    (h : (Device.createBuffer size label d).1 = .ok id) : id = d.heap.created + 1 := by
  rcases perform_cases (.createBuffer size label) d with ⟨-, ⟨fault, herror⟩, -⟩ | ⟨hanswer, -⟩
  · cases h.symm.trans herror
  · have hinner : (d.memory.createBuffer size).1 = .ok id := hanswer.symm.trans h
    rcases d.memory.createBuffer_heap size with ⟨-, m, hm, -⟩ | ⟨-, fault, hm⟩
    · rw [hm] at hinner
      cases hinner
      rfl
    · rw [hm] at hinner
      cases hinner

/-- No other call touches the heap. -/
theorem keeps_heap (h : Heap) {kinds : List CallKind} (hkinds : .memory ∉ kinds) :
    Keeps (fun d : FaultyDevice => d.heap = h) kinds :=
  keeps_memory (MemoryDevice.keeps_heap h hkinds)

lemma adjust_heap (arming : Arming) (d : FaultyDevice) :
    (Adjustable.adjust arming d).heap = d.heap := by
  obtain ⟨p, s, e, h⟩ := d.arm_memory arming.point arming.count arming.fault
  change (d.arm arming.point arming.count arming.fault).memory.heap = d.memory.heap
  rw [h]
  rfl

end FaultyDevice

/-! ### The device with its trace -/

namespace Traced

variable {δ : Type} {Q Q' : Exchange δ P D → Prop} {t t' t'' : Traced δ P D}

/-- Calls were noted since, and all of them have a property. -/
def Since (Q : Exchange δ P D → Prop) (t t' : Traced δ P D) : Prop :=
  ∃ es, t'.exchanges = t.exchanges ++ es ∧ ∀ e ∈ es, Q e

namespace Since

lemma refl (t : Traced δ P D) : Since Q t t := ⟨[], by simp, by simp⟩

lemma trans (h : Since Q t t') (h' : Since Q t' t'') : Since Q t t'' := by
  obtain ⟨es, hes, hQ⟩ := h
  obtain ⟨es', hes', hQ'⟩ := h'
  refine ⟨es ++ es', by rw [hes', hes, List.append_assoc], fun e he => ?_⟩
  rcases List.mem_append.mp he with he | he
  · exact hQ e he
  · exact hQ' e he

lemma mono (h : Since Q t t') (hQ : ∀ e, Q e → Q' e) : Since Q' t t' := by
  obtain ⟨es, hes, hall⟩ := h
  exact ⟨es, hes, fun e he => hQ e (hall e he)⟩

end Since

/-- Calls of some kinds are noted with what is true of all calls of these kinds. -/
lemma keeps_since [Device δ P D] {kinds : List CallKind} (t : Traced δ P D)
    (hQ : ∀ request d, request.kind ∈ kinds → Q (Exchange.of request d)) :
    Keeps (fun t' : Traced δ P D => Since Q t t') kinds := by
  intro request hkind t' ht'
  rw [perform_eq_call]
  refine ht'.trans ⟨[Exchange.of request t'.device], rfl, ?_⟩
  intro e he
  rw [List.mem_singleton.mp he]
  exact hQ request t'.device hkind

end Traced

/-- The range of a buffer that a call writes. -/
def Request.target : Request P D → Option (BufferId × ℕ × ℕ)
  | .writeBuffer id offset bytes => some (id, offset, bytes.size)
  | .copyBuffer _ _ id offset length => some (id, offset, length)
  | _ => none

/-- A call to a device in host memory, with what came of it. -/
abbrev HostExchange := Exchange FaultyDevice CompiledPipeline CompiledDepthStencil

/-- Whether a call to buffer memory failed. -/
def HostExchange.Failed (e : HostExchange) : Prop :=
  e.request.kind = .memory ∧ e.accepted = false

/-- A call that failed had a failure armed for it, or asked for a buffer where memory had no
room. -/
def HostExchange.Excused (e : HostExchange) : Prop :=
  HostExchange.Failed e → e.before.Armed e.request ∨
    ∃ size label, e.request = .createBuffer size label ∧ HostRoom.of size ≠ .granted

lemma HostExchange.excused_of_accepted {e : HostExchange} (h : e.accepted = true) :
    HostExchange.Excused e := by
  intro hfailed
  rw [hfailed.2] at h
  cases h

/-- A device in host memory with armed failures and a trace. -/
abbrev HostDevice := Traced FaultyDevice CompiledPipeline CompiledDepthStencil

namespace HostDevice

def heap (t : HostDevice) : Heap := t.device.heap

/-- One call was made and noted. -/
def Calls (t : HostDevice) (request : HostRequest) (accepted : Bool) (t' : HostDevice) : Prop :=
  t'.exchanges = t.exchanges ++ [⟨request, accepted, t.device, t'.device⟩]

/-- No call to buffer memory has failed so far. -/
def Clean (t : HostDevice) : Prop := ∀ e ∈ t.exchanges, ¬ HostExchange.Failed e

variable {t t' : HostDevice} {request : HostRequest} {accepted : Bool} {Q : HostExchange → Prop}

lemma Calls.since (h : t.Calls request accepted t')
    (hQ : Q ⟨request, accepted, t.device, t'.device⟩) : t.Since Q t' := ⟨_, h, by simpa using hQ⟩

lemma Calls.not_clean (h : t.Calls request false t') (hkind : request.kind = .memory) :
    ¬ Clean t' := by
  intro hclean
  refine hclean ⟨request, false, t.device, t'.device⟩ ?_ ⟨hkind, rfl⟩
  rw [h]
  exact List.mem_append_right _ (List.mem_singleton.mpr rfl)

/-- What a memory call does to the heap and to the trace. -/
lemma perform_cases (request : HostRequest) (hkind : request.kind = .memory) (t : HostDevice) :
    (∃ a t', request.perform t = (.ok a, t') ∧ t.heap.Admits request ∧
        t'.heap = t.heap.after request ∧ t.Calls request true t') ∨
      (∃ fault t', request.perform t = (.error fault, t') ∧ t'.heap = t.heap ∧
        t.Calls request false t' ∧ (t.device.Armed request ∨ ¬ t.heap.Admits request)) := by
  rw [Traced.perform_eq_call, Traced.call]
  rcases t.device.perform_heap request hkind with
    ⟨a, d', hd', hadmits, hheap⟩ | ⟨fault, d', hd', hheap, hwhy⟩
  · refine .inl ⟨a, ⟨d', _⟩, by rw [hd'], hadmits, hheap, ?_⟩
    rw [Calls, Exchange.of, hd']
    rfl
  · refine .inr ⟨fault, ⟨d', _⟩, by rw [hd'], hheap, ?_, hwhy⟩
    rw [Calls, Exchange.of, hd']
    rfl

/-- A call that is accepted. -/
lemma perform_ok (request : HostRequest) (hkind : request.kind = .memory) {answer : request.Answer}
    (h : request.perform t = (.ok answer, t')) :
    t.heap.Admits request ∧ t'.heap = t.heap.after request ∧
      t.Since (fun e => HostExchange.Excused e ∧ e.request = request) t' := by
  rcases t.perform_cases request hkind with
    ⟨_, _, hcall, hadmits, hheap, hcalls⟩ | ⟨_, _, hcall, -⟩
  · cases hcall.symm.trans h
    exact ⟨hadmits, hheap, hcalls.since ⟨HostExchange.excused_of_accepted rfl, rfl⟩⟩
  · cases hcall.symm.trans h

/-- A call that is refused, where nothing but memory without room could be the reason. -/
lemma perform_error (request : HostRequest) (hkind : request.kind = .memory)
    (hreason : ¬ t.heap.Admits request →
      ∃ size label, request = .createBuffer size label ∧ HostRoom.of size ≠ .granted)
    {fault : DeviceFault} (h : request.perform t = (.error fault, t')) :
    t'.heap = t.heap ∧ t.Since (fun e => HostExchange.Excused e ∧ e.request = request) t' ∧
      ¬ Clean t' := by
  rcases t.perform_cases request hkind with ⟨_, _, hcall, -⟩ | ⟨_, _, hcall, hheap, hcalls, hwhy⟩
  · cases hcall.symm.trans h
  · cases hcall.symm.trans h
    exact ⟨hheap, hcalls.since ⟨fun _ => hwhy.imp_right hreason, rfl⟩, hcalls.not_clean hkind⟩

lemma createBuffer_ok {size : ℕ} {label : Option String} {id : BufferId}
    (h : Device.createBuffer size label t = (.ok id, t')) :
    id = t.heap.created + 1 ∧ HostRoom.of size = .granted ∧ t'.heap = t.heap.allocate size ∧
      t.Since (fun e => HostExchange.Excused e ∧ e.request = .createBuffer size label) t' := by
  have hid : (Device.createBuffer size label t.device).1 = .ok id := congrArg Prod.fst h
  exact ⟨FaultyDevice.createBuffer_ok hid, perform_ok (.createBuffer size label) rfl h⟩

lemma createBuffer_error {size : ℕ} {label : Option String} {fault : DeviceFault}
    (h : Device.createBuffer size label t = (.error fault, t')) :
    t'.heap = t.heap ∧
      t.Since (fun e => HostExchange.Excused e ∧ e.request = .createBuffer size label) t' ∧
      ¬ Clean t' :=
  perform_error (.createBuffer size label) rfl (fun hroom => ⟨size, label, rfl, hroom⟩) h

lemma releaseBuffer_calls (id : BufferId) (t : HostDevice) :
    t.Calls (.releaseBuffer id) true (Device.releaseBuffer id t) := rfl

lemma releaseBuffer_eq (id : BufferId) (t : HostDevice) :
    (Device.releaseBuffer id t : HostDevice).heap = t.heap.release id ∧
      t.Since (fun e => HostExchange.Excused e ∧ e.request = .releaseBuffer id)
        (Device.releaseBuffer id t) :=
  ⟨rfl, (t.releaseBuffer_calls id).since ⟨HostExchange.excused_of_accepted rfl, rfl⟩⟩

lemma writeBuffer_ok {id : BufferId} {offset : ℕ} {bytes : Bytes}
    (h : Device.writeBuffer id offset bytes t = (.ok (), t')) :
    t'.heap = t.heap.write id offset bytes ∧
      t.Since (fun e => HostExchange.Excused e ∧ e.request = .writeBuffer id offset bytes) t' :=
  (perform_ok (.writeBuffer id offset bytes) rfl h).2

lemma writeBuffer_error {id : BufferId} {offset : ℕ} {bytes : Bytes}
    (hfits : t.heap.Fits id offset bytes.size) {fault : DeviceFault}
    (h : Device.writeBuffer id offset bytes t = (.error fault, t')) :
    t'.heap = t.heap ∧
      t.Since (fun e => HostExchange.Excused e ∧ e.request = .writeBuffer id offset bytes) t' ∧
      ¬ Clean t' :=
  perform_error (.writeBuffer id offset bytes) rfl (absurd hfits) h

lemma copyBuffer_ok {source target : BufferId} {sourceOffset targetOffset length : ℕ}
    (h : Device.copyBuffer source sourceOffset target targetOffset length t = (.ok (), t')) :
    t'.heap = t.heap.write target targetOffset
        ((t.heap.contents source).slice sourceOffset length) ∧
      t.Since (fun e => HostExchange.Excused e ∧
        e.request = .copyBuffer source sourceOffset target targetOffset length) t' :=
  (perform_ok (.copyBuffer source sourceOffset target targetOffset length) rfl h).2

lemma copyBuffer_error {source target : BufferId} {sourceOffset targetOffset length : ℕ}
    (hsource : t.heap.Fits source sourceOffset length)
    (htarget : t.heap.Fits target targetOffset length) {fault : DeviceFault}
    (h : Device.copyBuffer source sourceOffset target targetOffset length t = (.error fault, t')) :
    t'.heap = t.heap ∧
      t.Since (fun e => HostExchange.Excused e ∧
        e.request = .copyBuffer source sourceOffset target targetOffset length) t' ∧
      ¬ Clean t' :=
  perform_error (.copyBuffer source sourceOffset target targetOffset length) rfl
    (absurd ⟨hsource, htarget⟩) h

end HostDevice

end RenderBridge
