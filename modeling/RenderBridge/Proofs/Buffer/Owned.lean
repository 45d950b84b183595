import RenderBridge.Proofs.Buffer.Allocator
import RenderBridge.Proofs.Buffer.Issue
import RenderBridge.Proofs.Table
/-!
Who holds on to the buffers of a device in host memory, whatever fails and whatever granule the
device copies in.

* `Heap.Has`: the buffers that are there, each of them once; `FaultyDevice.createBuffer_has` and
  the lemmas beside it say what the calls of an allocator make of them.
* `BufferAllocator.allocations`, `BufferAllocator.Owns`: the buffers of an allocator are those of
  its records and of its staging ring.
* `BufferAllocator.create_owns`, `update_owns`, `destroy_owns`: each operation keeps that, on every
  way out.
* `allocations_owned`: **no allocation is lost** in any run.
-/

set_option autoImplicit false

namespace RenderBridge

/-! ### The buffers that are there -/

/-- The buffers that are there are these, each of them once. -/
structure Heap.Has (h : Heap) (ids : List BufferId) : Prop where
  distinct : h.buffers.keys.Nodup
  perm : h.buffers.keys.Perm ids
  made : ∀ id ∈ ids, id ≤ h.created

namespace Heap.Has

variable {h : Heap} {id : BufferId} {ids ids' : List BufferId}

lemma of_perm (hh : h.Has ids) (hperm : ids.Perm ids') : h.Has ids' where
  distinct := hh.distinct
  perm := hh.perm.trans hperm
  made id hid := hh.made id (hperm.mem_iff.mpr hid)

lemma size_eq (hh : h.Has ids) : h.buffers.size = ids.length := by
  rw [← Table.length_keys, hh.perm.length_eq]

/-- The number of a new buffer is none of the old ones. -/
lemma allocate (hh : h.Has ids) (size : ℕ) : (h.allocate size).Has ((h.created + 1) :: ids) := by
  have hfree : h.created + 1 ∉ h.buffers.keys := fun hmem =>
    Nat.not_succ_le_self _ (hh.made _ (hh.perm.mem_iff.mp hmem))
  have hkeys : (h.allocate size).buffers.keys = (h.created + 1) :: h.buffers.keys :=
    congrArg Table.keys (Table.insert_of_free hfree _)
  refine ⟨?_, ?_, fun id hid => ?_⟩
  · rw [hkeys]
    exact List.nodup_cons.mpr ⟨hfree, hh.distinct⟩
  · rw [hkeys]
    exact hh.perm.cons _
  · rcases List.mem_cons.mp hid with rfl | hold
    · exact le_rfl
    · exact (hh.made id hold).trans (Nat.le_succ _)

lemma release (hh : h.Has (id :: ids)) : (h.release id).Has ids where
  distinct := Table.nodup_keys_erase hh.distinct id
  perm := by
    have hnot : id ∉ ids := (List.nodup_cons.mp (hh.perm.nodup_iff.mp hh.distinct)).1
    have hothers : (id :: ids).filter (· ≠ id) = ids := by
      rw [List.filter_cons_of_neg (by simp)]
      refine List.filter_eq_self.mpr fun j hj => ?_
      simpa using ne_of_mem_of_not_mem hj hnot
    have hkeys := hh.perm.filter (· ≠ id)
    rw [hothers] at hkeys
    rw [Heap.release, Table.keys_erase]
    exact hkeys
  made j hj := hh.made j (List.mem_cons_of_mem id hj)

lemma write (hh : h.Has ids) (hid : id ∈ ids) (offset : ℕ) (bytes : Bytes) :
    (h.write id offset bytes).Has ids where
  distinct := Table.nodup_keys_insert hh.distinct id _
  perm := (Table.keys_insert_perm hh.distinct (hh.perm.mem_iff.mpr hid) _).trans hh.perm
  made := hh.made

end Heap.Has

namespace FaultyDevice

variable {d d' : FaultyDevice} {id : BufferId} {ids : List BufferId}

/-- A call keeps the buffers that are there where it keeps them when it succeeds. -/
lemma perform_has (request : HostRequest) (hkind : request.kind = .memory) (hd : d.heap.Has ids)
    (hafter : (d.heap.after request).Has ids) {answer : Except DeviceFault request.Answer}
    (h : request.perform d = (answer, d')) : d'.heap.Has ids := by
  rcases d.perform_heap request hkind with ⟨a, d', hcall, -, hheap⟩ | ⟨fault, d', hcall, hheap, -⟩
  · cases h.symm.trans hcall
    rw [hheap]
    exact hafter
  · cases h.symm.trans hcall
    rw [hheap]
    exact hd

lemma createBuffer_has {size : ℕ} {label : Option String}
    (hd : d.heap.Has ids) (hcall : Device.createBuffer size label d = (.ok id, d')) :
    d'.heap.Has (id :: ids) := by
  rcases d.perform_heap (.createBuffer size label) rfl with
    ⟨_, _, hok, -, hheap⟩ | ⟨_, _, herror, -⟩
  · cases hcall.symm.trans hok
    rw [createBuffer_ok (congrArg Prod.fst hcall), hheap]
    exact hd.allocate size
  · cases hcall.symm.trans herror

lemma createBuffer_refused_has {size : ℕ} {label : Option String}
    {fault : DeviceFault} (hd : d.heap.Has ids)
    (hcall : Device.createBuffer size label d = (.error fault, d')) : d'.heap.Has ids := by
  rcases d.perform_heap (.createBuffer size label) rfl with
    ⟨_, _, hok, -⟩ | ⟨_, _, herror, hheap, -⟩
  · cases hcall.symm.trans hok
  · cases hcall.symm.trans herror
    rw [hheap]
    exact hd

lemma releaseBuffer_has (hd : d.heap.Has (id :: ids)) : (Device.releaseBuffer id d).heap.Has ids :=
  hd.release

lemma writeBuffer_has {offset : ℕ} {bytes : Bytes} {answer : Except DeviceFault Unit}
    (hd : d.heap.Has ids) (hid : id ∈ ids)
    (hcall : Device.writeBuffer id offset bytes d = (answer, d')) : d'.heap.Has ids :=
  perform_has (.writeBuffer id offset bytes) rfl hd (hd.write hid offset bytes) hcall

lemma copyBuffer_has {source : BufferId} {sourceOffset offset length : ℕ}
    {answer : Except DeviceFault Unit} (hd : d.heap.Has ids) (hid : id ∈ ids)
    (hcall : Device.copyBuffer source sourceOffset id offset length d = (answer, d')) :
    d'.heap.Has ids :=
  perform_has (.copyBuffer source sourceOffset id offset length) rfl hd (hd.write hid offset _)
    hcall

end FaultyDevice

/-! ### The staging ring -/

namespace StagingRing

variable {r : StagingRing} {d : FaultyDevice} {ids : List BufferId}

/-- Settling a reservation keeps the buffer or gives it up. -/
lemma settle_buffer_or (r : StagingRing) (length : ℕ) (serial : FrameSerial) :
    (r.settle length serial).2.buffer = r.buffer ∨ (r.settle length serial).2.buffer = none := by
  have hsettled : (r.settle length serial).2.buffer = ((r.rewind serial).grow length).buffer := rfl
  rw [hsettled, grow]
  split
  · exact .inr rfl
  · exact .inl (r.rewind_buffer serial)

/-- A buffer that is given up is given back. -/
lemma releaseOutgrown_has {after : StagingRing}
    (hafter : after.buffer = r.buffer ∨ after.buffer = none)
    (hd : d.heap.Has (r.buffer.toList ++ ids)) :
    (releaseOutgrown r after d).heap.Has (after.buffer.toList ++ ids) := by
  rw [releaseOutgrown]
  rcases hafter with hsame | hnone
  · rw [hsame]
    cases hbuffer : r.buffer <;> simpa [hbuffer] using hd
  · rw [hnone]
    cases hbuffer : r.buffer with
    | none =>
      rw [hbuffer] at hd
      exact hd
    | some buffer =>
      rw [hbuffer] at hd
      exact FaultyDevice.releaseBuffer_has hd

/-- A buffer that is made is kept. -/
lemma ensureBuffer_has {ring : StagingRing} {answer : Except Fault BufferId} {d' : FaultyDevice}
    (hd : d.heap.Has (r.buffer.toList ++ ids)) (h : r.ensureBuffer d = (answer, ring, d')) :
    d'.heap.Has (ring.buffer.toList ++ ids) ∧
      ∀ buffer, answer = .ok buffer → ring.buffer = some buffer := by
  have hcourse := r.ensureBuffer_course d
  rw [h] at hcourse
  cases hcourse with
  | held hbuffer =>
    refine ⟨hd, ?_⟩
    rintro _ ⟨⟩
    exact hbuffer
  | refused hnone hcall =>
    refine ⟨FaultyDevice.createBuffer_refused_has hd hcall, ?_⟩
    rintro _ ⟨⟩
  | made hnone hcall =>
    rw [hnone] at hd
    refine ⟨FaultyDevice.createBuffer_has hd hcall, ?_⟩
    rintro _ ⟨⟩
    rfl

/-- A reservation keeps account of the ring's buffer, also where no larger one can be made. -/
lemma reserve_has {ring : StagingRing} {length : ℕ} {serial : FrameSerial}
    {answer : Except Fault (BufferId × ℕ)} {d' : FaultyDevice}
    (hd : d.heap.Has (r.buffer.toList ++ ids))
    (h : r.reserve length serial d = (answer, ring, d')) :
    d'.heap.Has (ring.buffer.toList ++ ids) ∧
      ∀ buffer offset, answer = .ok (buffer, offset) → ring.buffer = some buffer := by
  have hreleased := releaseOutgrown_has (r.settle_buffer_or length serial) hd
  have hcourse := r.reserve_course length serial d
  rw [h] at hcourse
  cases hcourse with
  | refused hsettle hensure =>
    rw [hsettle] at hreleased
    refine ⟨(ensureBuffer_has hreleased hensure).1, ?_⟩
    rintro _ _ ⟨⟩
  | reserved hsettle hensure =>
    rw [hsettle] at hreleased
    obtain ⟨hhas, hsome⟩ := ensureBuffer_has hreleased hensure
    refine ⟨hhas, ?_⟩
    rintro _ _ ⟨⟩
    exact hsome _ rfl

end StagingRing

/-! ### Allocators -/

namespace BufferAllocator

/-- The device buffers of an allocator: that of the staging ring, if one is held, and those of the
live buffers. -/
def allocations (a : BufferAllocator) : List BufferId :=
  a.ring.buffer.toList ++ a.records.values.map BufferRecord.buffer

/-- Every live buffer has a number of its own that was issued, and the buffers on the device are
those of the allocator, each held once. -/
structure Owns (a : BufferAllocator) (h : Heap) : Prop where
  distinct : a.records.keys.Nodup
  issued : ∀ handle ∈ a.records.keys, handle.raw.toNat < a.nextNumber
  has : h.Has a.allocations

variable {a : BufferAllocator} {d : FaultyDevice} {ids : List BufferId} {r : BufferRecord}

namespace Owns

variable {h h' : Heap} {handle : BufferHandle} {r' : BufferRecord}

lemma ofConfig (capacity : ℕ) (labels : Bool) (hnone : h.buffers = {}) :
    (ofConfig capacity labels).Owns h where
  distinct := List.nodup_nil
  issued handle hmem := by cases hmem
  has := by
    have hkeys : h.buffers.keys = [] := congrArg Table.keys hnone
    refine ⟨?_, ?_, fun id hid => by cases hid⟩
    · rw [hkeys]
      exact List.nodup_nil
    · rw [hkeys]
      rfl

lemma of_has (ha : a.Owns h) (hhas : h'.Has a.allocations) : a.Owns h' :=
  ⟨ha.distinct, ha.issued, hhas⟩

/-- As many buffers are on the device as are live, and one more where the ring holds one. -/
lemma size_eq (ha : a.Owns h) :
    h.buffers.size = a.liveBuffers + if a.ring.buffer.isSome then 1 else 0 := by
  rw [ha.has.size_eq, allocations, List.length_append, List.length_map, Table.length_values,
    Nat.add_comm, liveBuffers]
  cases a.ring.buffer <;> rfl

/-- A buffer is taken in under the next number. -/
lemma insert (ha : a.Owns h) (hraw : handle.raw.toNat = a.nextNumber)
    (hhas : h'.Has (r.buffer :: a.allocations)) :
    Owns { a with records := a.records.insert handle r, nextNumber := a.nextNumber + 1 } h' := by
  have hfree : handle ∉ a.records.keys := fun hmem => (ha.issued handle hmem).ne hraw
  have hrecords := Table.insert_of_free hfree r
  refine ⟨Table.nodup_keys_insert ha.distinct handle r, fun handle' hmem => ?_, ?_⟩
  · have hkeys : (a.records.insert handle r).keys = handle :: a.records.keys :=
      congrArg Table.keys hrecords
    rw [hkeys] at hmem
    rcases List.mem_cons.mp hmem with rfl | hold
    · exact hraw.trans_lt (Nat.lt_succ_self _)
    · exact (ha.issued handle' hold).trans (Nat.lt_succ_self _)
  · have hvalues : (a.records.insert handle r).values = r :: a.records.values :=
      congrArg Table.values hrecords
    refine hhas.of_perm ?_
    rw [allocations, allocations, hvalues]
    exact List.perm_middle.symm

/-- A record takes the place of one over the same buffer, and the ring may be another. -/
lemma replace (ha : a.Owns h) (hlive : a.records.get? handle = some r)
    (hbuffer : r'.buffer = r.buffer) {ring : StagingRing}
    (hhas : h'.Has (ring.buffer.toList ++ a.records.values.map BufferRecord.buffer)) :
    Owns { a with records := a.records.insert handle r', ring := ring } h' := by
  have hkeys := Table.keys_insert_perm ha.distinct (Table.mem_keys_iff.mpr ⟨r, hlive⟩) r'
  have hvalues := (Table.values_perm ha.distinct hlive).map BufferRecord.buffer
  rw [List.map_cons, ← hbuffer] at hvalues
  refine ⟨hkeys.nodup_iff.mpr ha.distinct, fun handle' hmem => ?_, ?_⟩
  · exact ha.issued handle' (hkeys.mem_iff.mp hmem)
  · exact hhas.of_perm (hvalues.append_left _)

/-- A buffer is given up. -/
lemma erase (ha : a.Owns h) (hlive : a.records.get? handle = some r) :
    Owns { a with records := a.records.erase handle } (h.release r.buffer) := by
  refine ⟨Table.nodup_keys_erase ha.distinct handle, fun handle' hmem => ?_, ?_⟩
  · rw [Table.keys_erase] at hmem
    exact ha.issued handle' (List.mem_of_mem_filter hmem)
  · have hvalues := (Table.values_perm ha.distinct hlive).map BufferRecord.buffer
    refine (ha.has.of_perm ?_).release
    exact (hvalues.append_left _).trans List.perm_middle

end Owns

/-! ### Creating -/

/-- Filling slots of a buffer that is there leaves the buffers that are there. -/
lemma writeSlots_has (bytes : Bytes) (slots : List ℕ) (hd : d.heap.Has ids) (hr : r.buffer ∈ ids) :
    (writeSlots bytes slots r d).2.heap.Has ids := by
  induction slots generalizing r d with
  | nil => exact hd
  | cons slot rest ih =>
    rw [writeSlots]
    rcases hstage : r.stage (r.slotOffset slot) bytes (granule d) with ⟨upload, r₁⟩
    have hbuffer : r₁.buffer = r.buffer := by rw [BufferRecord.stage_record hstage]
    rw [← hbuffer] at hr
    dsimp only
    split
    · rename_i hcall
      exact ih (FaultyDevice.writeBuffer_has hd hr hcall) hr
    · rename_i hcall
      exact FaultyDevice.writeBuffer_has hd hr hcall

lemma fill_has {host : HostMemory} {data : Option Bytes} {answer : Except Fault BufferRecord}
    {d' : FaultyDevice}
    (hd : d.heap.Has ids) (hr : r.buffer ∈ ids) (h : fill host r data d = (answer, d')) :
    d'.heap.Has ids := by
  have hcourse := fill_course host r data d
  rw [h] at hcourse
  cases hcourse with
  | unshadowed | blank => exact hd
  | @written bytes shadow _ _ _ hwrite =>
    have hwritten := writeSlots_has (r := { r with shadow }) bytes (List.range r.slotCount) hd hr
    rw [hwrite] at hwritten
    exact hwritten

/-- A creation keeps account of the buffers. What was made for one that fails is given back. -/
theorem create_owns (ha : a.Owns d.heap) (usage : BufferUsage) (size : ℤ) (data : Option Bytes)
    (host : HostMemory) :
    (a.create usage size data d host).2.1.Owns (a.create usage size data d host).2.2.heap := by
  have hcourse := a.create_course usage size data d host
  generalize a.create usage size data d host = out at hcourse ⊢
  cases hcourse with
  | refused => exact ha
  | unallocated _ hcall => exact ha.of_has (FaultyDevice.createBuffer_refused_has ha.has hcall)
  | unfilled _ hcall hfill | unnumbered _ hcall hfill =>
    have hhas := fill_has (FaultyDevice.createBuffer_has ha.has hcall) List.mem_cons_self hfill
    exact ha.of_has (FaultyDevice.releaseBuffer_has hhas)
  | created _ hcall hfill hnumber =>
    have hhas := fill_has (FaultyDevice.createBuffer_has ha.has hcall) List.mem_cons_self hfill
    rw [fill_record hfill]
    exact ha.insert (BufferHandle.toNat_raw_of_nth? hnumber) hhas

/-! ### Updating -/

/-- An upload through the ring keeps account of the ring's buffer. -/
lemma uploadStaged_has {ring ring' : StagingRing} {buffer : BufferId} {upload : Upload}
    {serial : FrameSerial} {answer : Except Fault Unit} {d' : FaultyDevice}
    (hd : d.heap.Has (ring.buffer.toList ++ ids)) (hbuffer : buffer ∈ ids)
    (h : uploadStaged ring buffer upload serial d = (answer, ring', d')) :
    d'.heap.Has (ring'.buffer.toList ++ ids) := by
  have hcourse := uploadStaged_course ring buffer upload serial d
  rw [h] at hcourse
  -- What is reserved lies in the ring's buffer, so that writing there makes and ends none.
  have hwritten : ∀ {staging offset answer d₁ d₂},
      ring.reserve upload.bytes.size serial d = (.ok (staging, offset), ring', d₁) →
        Device.writeBuffer staging offset upload.bytes d₁ = (answer, d₂) →
          d₂.heap.Has (ring'.buffer.toList ++ ids) := by
    intro staging offset answer d₁ d₂ hreserve hwrite
    obtain ⟨hhas, hsome⟩ := StagingRing.reserve_has hd hreserve
    have hstaging : staging ∈ ring'.buffer.toList ++ ids := by
      rw [hsome staging offset rfl]
      exact List.mem_cons_self
    exact FaultyDevice.writeBuffer_has hhas hstaging hwrite
  have hheld : buffer ∈ ring'.buffer.toList ++ ids := List.mem_append_right _ hbuffer
  cases hcourse with
  | unreserved hreserve => exact (StagingRing.reserve_has hd hreserve).1
  | unwritten hreserve hwrite => exact hwritten hreserve hwrite
  | uncopied hreserve hwrite hcopy | sent hreserve hwrite hcopy =>
    exact FaultyDevice.copyBuffer_has (hwritten hreserve hwrite) hheld hcopy

/-- An update keeps account of the buffers, also where the ring grows or cannot grow. -/
theorem update_owns (ha : a.Owns d.heap) (handle : BufferHandle) (offset : ℤ)
    (data : Option Bytes) (length : ℤ) (serial : FrameSerial) :
    (a.update handle offset data length serial d).2.1.Owns
      (a.update handle offset data length serial d).2.2.heap := by
  have hheld : ∀ {r r' payload upload},
      a.Stage handle offset data length serial (granule d) r r' payload upload →
        r'.buffer ∈ a.records.values.map BufferRecord.buffer := by
    intro r r' payload upload hs
    rw [hs.buffer_eq]
    exact List.mem_map_of_mem (Table.mem_values hs.asked.live)
  have hcourse := a.update_course handle offset data length serial d
  generalize a.update handle offset data length serial d = out at hcourse ⊢
  cases hcourse with
  | refused | empty => exact ha
  | unwritten hs _ hwrite | written hs _ hwrite =>
    exact ha.replace hs.asked.live hs.buffer_eq (FaultyDevice.writeBuffer_has ha.has
      (List.mem_append_right _ (hheld hs)) hwrite)
  | staged hs _ hsend =>
    exact ha.replace hs.asked.live hs.buffer_eq (uploadStaged_has ha.has (hheld hs) hsend)

/-! ### Destroying -/

/-- The end of a buffer keeps account of the others. -/
theorem destroy_owns (ha : a.Owns d.heap) (handle : BufferHandle) :
    (a.destroy handle d).2.1.Owns (a.destroy handle d).2.2.heap := by
  rw [destroy]
  rcases a.find_cases handle with ⟨r, hlive, hfind⟩ | ⟨-, hfind⟩
  · rw [hfind]
    exact ha.erase hlive
  · rw [hfind]
    exact ha

end BufferAllocator

/-! ### Runs -/

/-- The buffers on the device of a context are those of its allocator. -/
def Context.OwnsBuffers (c : HostContext FaultyDevice) : Prop := c.buffers.Owns c.device.heap

namespace Context.OwnsBuffers

variable {c : HostContext FaultyDevice}

lemma ofDevice (config : Config) (ui : UiThread) {d : FaultyDevice} (hd : d.Fresh) :
    OwnsBuffers (.ofDevice config ui d) :=
  .ofConfig config.stagingCapacity config.debugFlags.labels hd.buffers

/-- Every operation keeps account of the buffers, on every way out. -/
lemma perform (hc : c.OwnsBuffers) (op : Op) : OwnsBuffers (op.apply c).2 := by
  by_cases hcalls : .memory ∈ op.calls
  · cases op with
    | createBuffer usage size data =>
      rw [Op.apply, Op.replyWith_snd, Context.createBuffer]
      cases BufferUsage.ofToken usage with
      | error fault => exact hc
      | ok usage => exact BufferAllocator.create_owns hc usage size data c.host
    | updateBuffer buffer offset data length =>
      rw [Op.apply, Op.replyWith_snd, Context.updateBuffer]
      exact BufferAllocator.update_owns hc buffer offset data length c.serial
    | destroyBuffer buffer =>
      have hdestroy := BufferAllocator.destroy_owns hc buffer
      rw [Op.apply, Op.replyWith_snd, Context.destroyBuffer]
      split
      · rename_i fault buffers d hcall
        rw [hcall] at hdestroy
        exact hdestroy
      · rename_i buffers d hcall
        rw [hcall] at hdestroy
        exact hdestroy
    | _ => simp [Op.calls] at hcalls
  · have hbuffers := (op.changes_apply c).buffers_eq hcalls
    have hheap := op.apply_keeps (FaultyDevice.keeps_heap c.device.heap hcalls) c rfl
    rw [OwnsBuffers, hbuffers, hheap]
    exact hc

lemma apply (hc : c.OwnsBuffers) (step : Step Arming) : OwnsBuffers (step.apply c) := by
  cases step with
  | perform op => exact hc.perform op
  | adjust arming =>
    rw [OwnsBuffers, Step.apply, FaultyDevice.adjust_heap]
    exact hc
  | setUi _ | setHost _ => exact hc

lemma run (hc : c.OwnsBuffers) (steps : List (Step Arming)) : OwnsBuffers (Step.run steps c) :=
  Step.run_induction (fun step _ hc => hc.apply step) steps hc

end Context.OwnsBuffers

/-- **No allocation is lost.** After every run on a new device in host memory, whatever failures are
armed in it, whatever granule the device copies in and whenever host memory runs out for shadows,
there are as many buffers on the device as live buffers, and one more where the staging ring holds
one. They are the buffers of the live buffers and of the ring, each of them held by one of them
only. -/
theorem allocations_owned (config : Config) (ui : UiThread) {d : FaultyDevice} (hfresh : d.Fresh)
    (steps : List (Step Arming)) :
    let c := Step.run steps (.ofDevice config ui d : HostContext FaultyDevice)
    c.device.memory.bufferCount =
      c.stats.liveBuffers + (if c.buffers.ring.buffer.isSome then 1 else 0) ∧
    c.device.memory.buffers.keys.Nodup ∧
    c.device.memory.buffers.keys.Perm
      (c.buffers.ring.buffer.toList ++ c.buffers.records.values.map (·.buffer)) := by
  intro c
  have hc : c.OwnsBuffers := (Context.OwnsBuffers.ofDevice config ui hfresh).run steps
  exact ⟨hc.size_eq, hc.has.distinct, hc.has.perm⟩

/-- A buffer is made. Its first update gets no further than the staging ring; the second makes the
ring grow, which cannot be made anew. A second buffer is made and cannot be filled. -/
def brokenRun : List (Step Arming) := [
  .perform (.createBuffer 1 260 none),
  .adjust ⟨.writeBuffer, 1, .resource .targetsNotReady⟩,
  .perform (.updateBuffer .first 0 (some #[1]) 1),
  .adjust ⟨.createBuffer, 1, .resource .targetsNotReady⟩,
  .perform (.updateBuffer .first 0 (some (Bytes.zeros 260)) 260),
  .adjust ⟨.writeBuffer, 1, .resource .targetsNotReady⟩,
  .perform (.createBuffer 0 4 (some #[1]))]

/-- The context after that. -/
def brokenContext : HostContext FaultyDevice :=
  Step.run brokenRun (.ofDevice { stagingCapacity := 256 } .stopped {})

/-- A buffer is made. A second one is made when host memory has run out, and gets no shadow. -/
def starvedRun : List (Step Arming) :=
  [.perform (.createBuffer 0 4 none), .setHost .exhausted, .perform (.createBuffer 0 4 none)]

/-- The context after that, on a device that copies in granules of four. -/
def starvedContext : HostContext FaultyDevice :=
  Step.run starvedRun (.ofDevice {} .stopped (.ofAlignment 4))

/-- Of the three buffers that were made in the one run, and of the two in the other, the live one is
left. -/
theorem allocations_owned_brokenRun :
    (({} : FaultyDevice).Fresh ∧ brokenContext.device.heap.created = 3 ∧
      brokenContext.buffers.ring.capacity = 512 ∧ brokenContext.stats.liveBuffers = 1 ∧
      brokenContext.buffers.ring.buffer = none ∧
      brokenContext.device.memory.bufferCount = 1) ∧
    ((FaultyDevice.ofAlignment 4).Fresh ∧ starvedContext.device.heap.created = 2 ∧
      starvedContext.stats.liveBuffers = 1 ∧ starvedContext.device.memory.bufferCount = 1) := by
  constructor
  · have hfresh : ({} : FaultyDevice).Fresh := FaultyDevice.fresh_ofAlignment 0
    have hstate : (brokenContext.device.heap.created, brokenContext.buffers.ring.capacity,
        brokenContext.stats.liveBuffers, brokenContext.buffers.ring.buffer) =
          (3, 512, 1, none) := by
      decide +kernel
    simp only [Prod.mk.injEq] at hstate
    obtain ⟨hcreated, hcapacity, hlive, hring⟩ := hstate
    obtain ⟨hcount, -⟩ := allocations_owned { stagingCapacity := 256 } .stopped hfresh brokenRun
    rw [← brokenContext, hlive, hring] at hcount
    exact ⟨hfresh, hcreated, hcapacity, hlive, hring, hcount⟩
  · have hfresh := FaultyDevice.fresh_ofAlignment 4
    have hstate : (starvedContext.device.heap.created, starvedContext.stats.liveBuffers,
        starvedContext.buffers.ring.buffer) = (2, 1, none) := by decide +kernel
    simp only [Prod.mk.injEq] at hstate
    obtain ⟨hcreated, hlive, hring⟩ := hstate
    obtain ⟨hcount, -⟩ := allocations_owned {} .stopped hfresh starvedRun
    rw [← starvedContext, hlive, hring] at hcount
    exact ⟨hfresh, hcreated, hlive, hcount⟩

end RenderBridge
