import RenderBridge.Proofs.Buffer.Course
import RenderBridge.Proofs.Device.Heap
/-!
What a creation leaves behind on a device in host memory with armed failures, whatever granule the
device copies in.

* `FaultyDevice.frame_perform`: a call that fails does nothing, so that what a call keeps where it
  succeeds it keeps.
* `FaultyDevice.keeps_created`: the number of buffers ever made only grows.
* `BufferAllocator.fill_frame`: filling a new buffer touches that buffer only.
* `BufferAllocator.create_issues`: **a creation** takes a buffer in under the next number, or leaves
  the allocator as it is; either way the older allocations keep their contents.
-/

set_option autoImplicit false

namespace RenderBridge

/-- The handle with a number has that number. -/
lemma BufferHandle.toNat_raw_of_nth? {n : ℕ} {handle : BufferHandle}
    (h : BufferHandle.nth? n = some handle) : handle.raw.toNat = n := by
  rw [nth?] at h
  split at h
  · rename_i hlt
    rw [ofRaw?] at h
    split at h
    · cases h
      exact UInt64.toNat_ofNat_of_lt hlt
    · cases h
  · cases h

/-- Numbers are handles as long as they are words. -/
lemma BufferHandle.exists_nth?_eq {n : ℕ} (hpos : 0 < n) (hn : n < Word.range) :
    ∃ handle, BufferHandle.nth? n = some handle := by
  have hne : UInt64.ofNat n ≠ 0 := by
    intro hzero
    have hvalue : (UInt64.ofNat n).toNat = n := by
      rw [UInt64.toNat_ofNat']
      exact Nat.mod_eq_of_lt hn
    rw [hzero] at hvalue
    exact hpos.ne hvalue
  exact ⟨⟨_, hne⟩, by rw [nth?, if_pos hn, ofRaw?, dif_pos hne]⟩

/-! ### Calls -/

namespace FaultyDevice

/-- A call keeps what it keeps where it succeeds. -/
lemma frame_perform (request : HostRequest) (hkind : request.kind = .memory) (d : FaultyDevice)
    {kept : BufferId → Prop} (h : Heap.Frame kept d.heap (d.heap.after request)) :
    Heap.Frame kept d.heap (request.perform d).2.heap := by
  rcases d.perform_heap request hkind with ⟨a, d', hcall, -, hheap⟩ | ⟨fault, d', hcall, hheap, -⟩
  · rw [hcall, hheap]
    exact h
  · rw [hcall, hheap]
    exact .refl kept d.heap

/-- Buffers are numbered as they are made, and a number is never taken back. -/
lemma keeps_created (n : ℕ) (kinds : List CallKind) :
    Keeps (fun d : FaultyDevice => n ≤ d.heap.created) kinds := by
  intro request hkind d hd
  by_cases hmemory : request.kind = .memory
  · rcases d.perform_heap request hmemory with
      ⟨a, d', hcall, -, hheap⟩ | ⟨fault, d', hcall, hheap, -⟩
    · rw [hcall, hheap]
      cases request with
      | createBuffer size label => exact hd.trans (Nat.le_succ _)
      | _ => exact hd
    · rw [hcall, hheap]
      exact hd
  · have hkind : .memory ∉ [request.kind] := by simpa using fun h => hmemory h.symm
    have hkept := keeps_heap d.heap hkind request (List.mem_singleton_self _) d rfl
    rw [hkept]
    exact hd

end FaultyDevice

/-! ### Filling -/

namespace BufferAllocator

/-- Writing into the slots of a buffer touches that buffer only. -/
lemma writeSlots_frame (bytes : Bytes) (slots : List ℕ) (r : BufferRecord) (d : FaultyDevice) :
    Heap.Frame (· ≠ r.buffer) d.heap (writeSlots bytes slots r d).2.heap := by
  induction slots generalizing r d with
  | nil => exact .refl _ _
  | cons slot rest ih =>
    rw [writeSlots]
    rcases hstage : r.stage (r.slotOffset slot) bytes (granule d) with ⟨upload, r₁⟩
    have hbuffer : r₁.buffer = r.buffer := by rw [BufferRecord.stage_record hstage]
    dsimp only
    have hwrite : Heap.Frame (· ≠ r.buffer) d.heap
        (Device.writeBuffer r₁.buffer upload.offset upload.bytes d).2.heap := by
      rw [hbuffer]
      exact d.frame_perform (.writeBuffer r.buffer upload.offset upload.bytes) rfl
        (d.heap.frame_write _ _ _)
    split
    · rename_i d₁ hcall
      rw [hcall] at hwrite
      have hrest := ih r₁ d₁
      rw [hbuffer] at hrest
      exact hwrite.trans hrest
    · rename_i fault d₁ hcall
      rw [hcall] at hwrite
      exact hwrite

/-- Filling a new buffer touches that buffer only. -/
lemma fill_frame (host : HostMemory) (r : BufferRecord) (data : Option Bytes) (d : FaultyDevice) :
    Heap.Frame (· ≠ r.buffer) d.heap (fill host r data d).2.heap := by
  have hcourse := fill_course host r data d
  generalize fill host r data d = out at hcourse ⊢
  cases hcourse with
  | unshadowed | blank => exact .refl _ _
  | @written _ shadow _ _ _ hwrite =>
    rw [← hwrite]
    exact writeSlots_frame _ _ { r with shadow } d

/-! ### Creating -/

/-- A new allocation is filled without touching the older ones. -/
lemma fill_new {host : HostMemory} {d d₁ d₂ : FaultyDevice} {size : ℕ} {label : Option String}
    {r : BufferRecord} {data : Option Bytes} {answer : Except Fault BufferRecord}
    (hcall : Device.createBuffer size label d = (.ok r.buffer, d₁))
    (hfill : fill host r data d₁ = (answer, d₂)) :
    d.heap.created < r.buffer ∧ r.buffer ≤ d₂.heap.created ∧
      Heap.Frame (fun _ => True) d.heap d₂.heap := by
  have hframe : Heap.Frame (· ≠ r.buffer) d₁.heap d₂.heap := by
    have h := fill_frame host r data d₁
    rw [hfill] at h
    exact h
  have hnumber : r.buffer = d.heap.created + 1 := FaultyDevice.createBuffer_ok (by rw [hcall])
  rcases d.perform_heap (.createBuffer size label) rfl with
    ⟨_, _, hok, -, hheap⟩ | ⟨_, _, herror, -⟩
  · cases hcall.symm.trans hok
    have hmade : d₁.heap.created = d.heap.created + 1 := by
      rw [hheap]
      rfl
    have hallocated : Heap.Frame (fun _ => True) d.heap d₁.heap := by
      rw [hheap]
      exact d.heap.frame_allocate size
    have hnew : d.heap.created < r.buffer := by
      rw [hnumber]
      exact Nat.lt_succ_self _
    refine ⟨hnew, ?_, hallocated.trans_of_imp hframe fun id hid _ =>
      Nat.ne_of_lt (Nat.lt_of_le_of_lt hid hnew)⟩
    rw [hnumber, ← hmade]
    exact hframe.created
  · cases hcall.symm.trans herror

/-- A filled buffer is taken in under the next number, or there is none. -/
lemma issue_cases (a : BufferAllocator) (r : BufferRecord) :
    (∃ handle, a.issue r = (.ok handle, { a with
        records := a.records.insert handle r, nextNumber := a.nextNumber + 1 }) ∧
        handle.raw.toNat = a.nextNumber) ∨
      (∃ fault, a.issue r = (.error fault, a)) := by
  rw [issue]
  split
  · rename_i handle hnth
    exact .inl ⟨handle, rfl, BufferHandle.toNat_raw_of_nth? hnth⟩
  · exact .inr ⟨_, rfl⟩

/-- What a creation does: the buffer is taken in under the next number, or the allocator stays as it
is. -/
theorem create_issues (a : BufferAllocator) (usage : BufferUsage) (size : ℤ) (data : Option Bytes)
    (d : FaultyDevice) (host : HostMemory) :
    (∃ handle r d', a.create usage size data d host =
          (.ok handle, { a with
            records := a.records.insert handle r, nextNumber := a.nextNumber + 1 }, d') ∧
        handle.raw.toNat = a.nextNumber ∧ r.buffer ≤ d'.heap.created ∧
        Heap.Frame (fun _ => True) d.heap d'.heap) ∨
      (∃ fault d', a.create usage size data d host = (.error fault, a, d') ∧
        Heap.Frame (fun _ => True) d.heap d'.heap) := by
  have hcourse := a.create_course usage size data d host
  generalize a.create usage size data d host = out at hcourse ⊢
  cases hcourse with
  | refused => exact .inr ⟨_, d, rfl, .refl _ _⟩
  | @unallocated slotSize _ _ _ hcall =>
    have hframe := d.frame_perform
      (.createBuffer (slotSize * usage.slotCount) (a.nextLabel usage)) rfl
      (d.heap.frame_allocate (slotSize * usage.slotCount))
    change Heap.Frame _ _ (Device.createBuffer _ _ d).2.heap at hframe
    rw [hcall] at hframe
    exact .inr ⟨_, _, rfl, hframe⟩
  | unfilled _ hcall hfill | unnumbered _ hcall hfill =>
    obtain ⟨hnew, -, hframe⟩ := fill_new hcall hfill
    -- What was filled in vain is given back, and was not there before.
    exact .inr ⟨_, _, rfl, hframe.trans_of_imp
      (FaultyDevice.frame_perform (.releaseBuffer _) rfl _ (Heap.frame_release _ _))
      fun id hid _ => Nat.ne_of_lt (Nat.lt_of_le_of_lt hid hnew)⟩
  | created _ hcall hfill hnumber =>
    obtain ⟨-, hmade, hframe⟩ := fill_new hcall hfill
    refine .inl ⟨_, _, _, rfl, BufferHandle.toNat_raw_of_nth? hnumber, ?_, hframe⟩
    rw [fill_record hfill]
    exact hmade

end BufferAllocator

end RenderBridge
