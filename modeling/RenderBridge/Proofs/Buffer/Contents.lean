import RenderBridge.Proofs.Buffer.Allocator
/-!
What hosts see of buffers: plain byte strings, one for each slot.

* `PlainBuffer`, `PlainBuffers.run`: buffers without a device, and what a run makes of them.
* `Context.Refines`: the slots of the buffers of a context, read from the device, are those of plain
  buffers, and every shadow is what the device holds.
* `Step.apply_refines`: **every step keeps it** where no call to buffer memory fails.
-/

set_option autoImplicit false

namespace RenderBridge

/-! ### Plain buffers -/

/-- A buffer as a host sees it: so many bytes in each of its slots. -/
structure PlainBuffer where
  size : ℕ
  slots : List Bytes
deriving DecidableEq

namespace PlainBuffer

/-- A new buffer: one slot if it is static, three if it is dynamic, each with the initial data and
zeros behind it. -/
def make (token size : ℤ) (data : Option Bytes) : PlainBuffer where
  size := size.toNat
  slots := List.replicate (if token = 0 then 1 else 3) (Bytes.seeded size.toNat (data.getD #[]))

/-- The updates of a buffer that are accepted. -/
def Accepts (b : PlainBuffer) (offset : ℤ) (data : Option Bytes) (length : ℤ) : Prop :=
  0 ≤ offset ∧ 0 ≤ length ∧ offset + length ≤ b.size ∧
    (length = 0 ∨ ∃ bytes ∈ data, length ≤ bytes.size)

instance (b : PlainBuffer) (offset : ℤ) (data : Option Bytes) (length : ℤ) :
    Decidable (b.Accepts offset data length) :=
  inferInstanceAs (Decidable (_ ∧ _ ∧ _ ∧ (_ ∨ _)))

/-- The buffer with a range of the slot of a frame replaced by the first bytes of the data. -/
def patch (b : PlainBuffer) (serial : FrameSerial) (offset length : ℕ) (data : Bytes) :
    PlainBuffer where
  size := b.size
  slots := b.slots.modify (serial.count.toNat % b.slots.length) fun slot =>
    slot.patched offset length data

end PlainBuffer

/-- The live buffers of a host. -/
abbrev PlainBuffers := BufferHandle → Option PlainBuffer

namespace PlainBuffers

/-- What an operation in a frame makes of plain buffers. Only the handle of a new buffer, and
whether there is one, are taken from the answer. -/
def perform (m : PlainBuffers) (serial : FrameSerial) (op : Op) (answer : Except Fault Reply) :
    PlainBuffers :=
  match op, answer with
  | .createBuffer token size data, .ok (.buffer handle) =>
    Function.update m handle (some (.make token size data))
  | .updateBuffer handle offset data length, _ =>
    Function.update m handle ((m handle).map fun b =>
      if b.Accepts offset data length then
        b.patch serial offset.toNat length.toNat (data.getD #[])
      else b)
  | .destroyBuffer handle, _ => Function.update m handle none
  | _, _ => m

variable {δ α P D : Type} [Device δ P D] [Adjustable δ α]

/-- What a step of a context makes of plain buffers. -/
def step (m : PlainBuffers) (c : Context δ P D) : Step α → PlainBuffers
  | .perform op => m.perform c.serial op (op.apply c).1
  | .adjust _ | .setUi _ | .setHost _ => m

/-- What a run from a context makes of plain buffers. -/
def run : List (Step α) → Context δ P D → PlainBuffers → PlainBuffers
  | [], _, m => m
  | s :: steps, c, m => run steps (s.apply c) (m.step c s)

end PlainBuffers

/-! ### The slots on the device -/

namespace BufferRecord

/-- The buffer as it is read from the device. -/
def plain (h : Heap) (r : BufferRecord) : PlainBuffer where
  size := r.size
  slots := (List.range r.slotCount).map fun slot =>
    (h.contents r.buffer).slice (r.slotOffset slot) r.size

variable {h h' : Heap} {r r' : BufferRecord}

/-- A kept buffer reads the same. -/
lemma plain_frame {kept : BufferId → Prop} (hr : r.Laid h) (hf : Heap.Frame kept h h')
    (hkept : kept r.buffer) : r.plain h' = r.plain h := by
  rw [plain, plain, hf.contents r.buffer hr.made hkept]

/-- A new buffer reads as a plain one is made. -/
lemma plain_created {token size : ℤ} {data : Option Bytes} {usage : BufferUsage}
    (htoken : BufferUsage.ofToken token = .ok usage)
    (hr : BufferAllocator.Created h h' usage size data r) :
    r.plain h' = .make token size data := by
  have hcount : r.slotCount = if token = 0 then 1 else 3 := by
    rw [slotCount, hr.usage_eq]
    rw [BufferUsage.ofToken] at htoken
    split_ifs at htoken with hzero hone
    · cases htoken
      rw [if_pos hzero]
      rfl
    · cases htoken
      rw [if_neg hzero]
      rfl
  rw [plain, PlainBuffer.make, hr.size_eq, ← hcount]
  congr 1
  rw [List.eq_replicate_iff]
  refine ⟨by simp, fun bytes hbytes => ?_⟩
  obtain ⟨slot, hslot, rfl⟩ := List.mem_map.mp hbytes
  rw [← hr.size_eq]
  exact hr.seeded slot (List.mem_range.mp hslot)

/-- The buffer that has these contents. -/
def slices (r : BufferRecord) (contents : Bytes) : PlainBuffer where
  size := r.size
  slots := (List.range r.slotCount).map fun slot => contents.slice (r.slotOffset slot) r.size

lemma getElem?_slices (r : BufferRecord) (contents : Bytes) (slot : ℕ) :
    (r.slices contents).slots[slot]? =
      if slot < r.slotCount then some (contents.slice (r.slotOffset slot) r.size) else none := by
  rw [slices, List.getElem?_map]
  split
  · rename_i hslot
    rw [List.getElem?_range hslot]
    rfl
  · rename_i hslot
    rw [List.getElem?_eq_none (by rw [List.length_range]; omega)]
    rfl

/-- The slot of a frame, counted as plain buffers count it. -/
lemma activeSlot_slices (r : BufferRecord) (contents : Bytes) (serial : FrameSerial) :
    serial.count.toNat % (r.slices contents).slots.length = r.activeSlot serial := by
  rw [slices, List.length_map, List.length_range, activeSlot, FrameSerial.slot,
    max_eq_left r.slotCount_pos]

/-- Contents that differ in the slot of a frame only. -/
lemma slices_eq_modify {contents contents' : Bytes} (serial : FrameSerial) {f : Bytes → Bytes}
    (hactive : contents'.slice (r.activeOffset serial) r.size =
      f (contents.slice (r.activeOffset serial) r.size))
    (hothers : ∀ slot < r.slotCount, r.activeSlot serial ≠ slot →
      contents'.slice (r.slotOffset slot) r.size = contents.slice (r.slotOffset slot) r.size) :
    r.slices contents' = ⟨r.size, (r.slices contents).slots.modify
      (serial.count.toNat % (r.slices contents).slots.length) f⟩ := by
  refine congrArg (PlainBuffer.mk r.size) (List.ext_getElem? fun slot => ?_)
  change (r.slices contents').slots[slot]? = _
  rw [activeSlot_slices, List.getElem?_modify, getElem?_slices, getElem?_slices]
  by_cases hslot : slot < r.slotCount
  · rw [if_pos hslot, if_pos hslot, Option.map_eq_map, Option.map_some]
    by_cases hsame : r.activeSlot serial = slot
    · subst hsame
      rw [if_pos rfl]
      exact congrArg some hactive
    · rw [if_neg hsame]
      exact congrArg some (hothers slot hslot hsame)
  · rw [if_neg hslot, if_neg hslot]
    rfl

/-- Replacing a range of the slot of a frame patches the plain buffer. -/
lemma slices_overwrite {contents : Bytes} (hle : r.size ≤ r.slotSize)
    (hcontents : contents.size = r.total) (serial : FrameSerial) {offset length : ℕ} {data : Bytes}
    (hinside : offset + length ≤ r.size) (hdata : length ≤ data.size) :
    r.slices (contents.overwrite (r.activeOffset serial + offset) (data.slice 0 length)) =
      (r.slices contents).patch serial offset length data := by
  have hsize : (data.slice 0 length).size = length := Bytes.size_slice (by omega)
  have hend := slotOffset_add_le (r.activeSlot_lt serial)
  have hoffset : r.activeOffset serial = r.slotOffset (r.activeSlot serial) := rfl
  refine slices_eq_modify serial ?_ fun slot hslot hother => ?_
  · rw [Bytes.slice_overwrite_of_subset (by omega) (by omega) (by omega), Nat.add_sub_cancel_left,
      Bytes.overwrite_eq_patched hdata]
    rw [Bytes.size_slice (by omega)]
    exact hinside
  · have hapart := slotOffset_apart (r := r) hother
    exact Bytes.slice_overwrite_of_disjoint (by omega) (by omega)

/-- Where the device holds what was meant, the buffer reads as a plain one is patched. -/
lemma plain_updated (hr : r.Laid h) (hrecord : r' = { r with shadow := r'.shadow })
    {serial : FrameSerial} {offset length : ℕ} {data : Bytes} (hinside : offset + length ≤ r.size)
    (hdata : length ≤ data.size)
    (hcontents : h'.contents r.buffer = (h.contents r.buffer).overwrite
      (r.activeOffset serial + offset) (data.slice 0 length)) :
    r'.plain h' = (r.plain h).patch serial offset length data := by
  have hplain : r'.plain h' = r.slices (h'.contents r.buffer) := by rw [hrecord]; rfl
  rw [hplain, hcontents]
  exact slices_overwrite hr.size_le hr.contents_size serial hinside hdata

end BufferRecord

/-! ### Refinement -/

namespace Context

variable {c c' : HostContext HostDevice} {m : PlainBuffers}

/-- Where the buffers stay and the device keeps them, they read as before. -/
lemma plain_kept (hlaid : c.buffers.Laid c.device.heap)
    (hplain : ∀ handle, m handle = (c.buffers.records.get? handle).map (·.plain c.device.heap))
    (hbuffers : c'.buffers = c.buffers)
    (hf : Heap.Frame (fun _ => True) c.device.heap c'.device.heap) (handle : BufferHandle) :
    m handle = (c'.buffers.records.get? handle).map (·.plain c'.device.heap) := by
  rw [hplain handle, hbuffers]
  cases hr : c.buffers.records.get? handle with
  | none => rfl
  | some r =>
    exact congrArg some (BufferRecord.plain_frame (hlaid.record handle r hr) hf trivial).symm

/-- Where one buffer is made, changed or ended and the others are kept, that is what is read. -/
lemma plain_changed (hlaid : c.buffers.Laid c.device.heap)
    (hplain : ∀ handle, m handle = (c.buffers.records.get? handle).map (·.plain c.device.heap))
    {handle : BufferHandle} (changed : Option BufferRecord) {kept : BufferId → Prop}
    (hrecords : ∀ handle', c'.buffers.records.get? handle' =
      if handle' = handle then changed else c.buffers.records.get? handle')
    (hf : Heap.Frame kept c.device.heap c'.device.heap)
    (hkept : ∀ handle' r, handle' ≠ handle → c.buffers.records.get? handle' = some r →
      kept r.buffer) (handle' : BufferHandle) :
    Function.update m handle (changed.map (·.plain c'.device.heap)) handle' =
      (c'.buffers.records.get? handle').map (·.plain c'.device.heap) := by
  rw [Function.update_apply, hrecords]
  split
  · rfl
  · rename_i hne
    rw [hplain handle']
    cases hr : c.buffers.records.get? handle' with
    | none => rfl
    | some r =>
      exact congrArg some (BufferRecord.plain_frame (hlaid.record handle' r hr) hf
        (hkept handle' r hne hr)).symm

end Context

/-- Buffers under other handles lie in other allocations, apart from the ring. -/
lemma BufferAllocator.Laid.others_apart {h : Heap} {a : BufferAllocator} (ha : a.Laid h)
    {handle : BufferHandle} {r : BufferRecord} (hr : a.records.get? handle = some r)
    (handle' : BufferHandle) (r' : BufferRecord) (hne : handle' ≠ handle)
    (hr' : a.records.get? handle' = some r') :
    r'.buffer ≠ r.buffer ∧ a.ring.buffer ≠ some r'.buffer :=
  ⟨fun heq => hne (ha.distinct handle' handle r' r hr' hr heq),
    fun hring => ha.apart r'.buffer hring handle' r' hr' rfl⟩

/-- The buffers of a context are laid out, their shadows are what the device holds, and what is read
of them is the plain buffers. -/
structure Context.Refines (c : HostContext HostDevice) (m : PlainBuffers) : Prop where
  laid : c.buffers.Laid c.device.heap
  mirrored : ∀ handle r, c.buffers.records.get? handle = some r → r.Mirrored c.device.heap
  plain : ∀ handle, m handle = (c.buffers.records.get? handle).map (·.plain c.device.heap)

namespace Context.Refines

variable {c c' : HostContext HostDevice} {m : PlainBuffers}

/-- An update is accepted exactly where the plain buffer accepts it. -/
lemma accepts_iff (hR : c.Refines m) (handle : BufferHandle) (offset : ℤ) (data : Option Bytes)
    (length : ℤ) :
    c.buffers.Accepts handle offset data length ↔
      ∃ b, m handle = some b ∧ b.Accepts offset data length := by
  rw [hR.plain handle]
  constructor
  · rintro ⟨r, hlive, haccepts⟩
    exact ⟨r.plain c.device.heap, by rw [hlive]; rfl, haccepts⟩
  · rintro ⟨b, hb, haccepts⟩
    obtain ⟨r, hlive, rfl⟩ := Option.map_eq_some_iff.mp hb
    exact ⟨r, hlive, haccepts⟩

/-- Where the buffers stay and the device keeps them, nothing is seen of it. -/
lemma kept (hR : c.Refines m) (hbuffers : c'.buffers = c.buffers)
    (hf : Heap.Frame (fun _ => True) c.device.heap c'.device.heap) : c'.Refines m := by
  refine ⟨?_, ?_, plain_kept hR.laid hR.plain hbuffers hf⟩
  · rw [hbuffers]
    exact hR.laid.frame hf
  · rw [hbuffers]
    intro handle r hr
    exact (hR.mirrored handle r hr).frame (hR.laid.record handle r hr) hf trivial

/-- Where one buffer is made, changed or ended and the others are kept, that is what is seen. -/
lemma changed (hR : c.Refines m) (hlaid : c'.buffers.Laid c'.device.heap) {handle : BufferHandle}
    (changed : Option BufferRecord) {kept : BufferId → Prop}
    (hrecords : ∀ handle', c'.buffers.records.get? handle' =
      if handle' = handle then changed else c.buffers.records.get? handle')
    (hmirrored : ∀ r, changed = some r → r.Mirrored c'.device.heap)
    (hf : Heap.Frame kept c.device.heap c'.device.heap)
    (hkept : ∀ handle' r, handle' ≠ handle → c.buffers.records.get? handle' = some r →
      kept r.buffer) :
    c'.Refines (Function.update m handle (changed.map (·.plain c'.device.heap))) := by
  refine ⟨hlaid, fun handle' r hr => ?_, plain_changed hR.laid hR.plain changed hrecords hf hkept⟩
  rw [hrecords] at hr
  split at hr
  · exact hmirrored r hr
  · rename_i hne
    exact (hR.mirrored handle' r hr).frame (hR.laid.record handle' r hr) hf
      (hkept handle' r hne hr)

end Context.Refines

namespace PlainBuffers

variable {m : PlainBuffers} {serial : FrameSerial} {handle : BufferHandle} {offset length : ℤ}
  {data : Option Bytes} {answer : Except Fault Reply}

/-- Only operations on buffers change plain buffers. -/
lemma perform_of_not_memory {op : Op} (h : .memory ∉ op.calls) :
    m.perform serial op answer = m := by
  cases op with
  | createBuffer | updateBuffer | destroyBuffer => exact absurd (List.mem_singleton.mpr rfl) h
  | _ => rfl

/-- An accepted update patches its buffer, and no other. -/
lemma perform_update_accepted {b : PlainBuffer} (hb : m handle = some b)
    (haccepts : b.Accepts offset data length) :
    m.perform serial (.updateBuffer handle offset data length) answer =
      Function.update m handle
        (some (b.patch serial offset.toNat length.toNat (data.getD #[]))) := by
  rw [perform, hb, Option.map_some, if_pos haccepts]

/-- An update that is not accepted changes nothing. -/
lemma perform_update_refused (h : ¬ ∃ b, m handle = some b ∧ b.Accepts offset data length) :
    m.perform serial (.updateBuffer handle offset data length) answer = m := by
  rw [perform, Function.update_eq_self_iff]
  cases hb : m handle with
  | none => rfl
  | some b =>
    rw [Option.map_some, if_neg]
    exact fun haccepts => h ⟨b, hb, haccepts⟩

/-- An update of no bytes changes nothing. -/
lemma perform_update_empty :
    m.perform serial (.updateBuffer handle offset data 0) answer = m := by
  have hpatched : ∀ (bytes : Bytes) (n : ℕ) (d : Bytes), bytes.patched n 0 d = bytes := by
    intro bytes n d
    apply Array.ext_getElem?
    intro i
    rw [Bytes.getElem?_patched, if_neg (by omega)]
  have hpatch : ∀ (b : PlainBuffer) (n : ℕ) (d : Bytes), b.patch serial n 0 d = b := by
    intro b n d
    rw [PlainBuffer.patch]
    have hid : (fun slot : Bytes => slot.patched n 0 d) = id := funext fun slot => hpatched slot n d
    rw [hid, List.modify_id]
  rw [perform, Function.update_eq_self_iff]
  cases m handle with
  | none => rfl
  | some b =>
    rw [Option.map_some, Int.toNat_zero, hpatch, ite_self]

end PlainBuffers

/-- Every operation keeps the refinement, where no call to buffer memory fails. -/
lemma Op.BufferEffect.refines {c c' : HostContext HostDevice} {m : PlainBuffers} {op : Op}
    {answer : Except Fault Reply} (h : BufferEffect c op answer c') (hR : c.Refines m)
    (hclean : HostDevice.Clean c'.device) : c'.Refines (m.perform c.serial op answer) := by
  have hlaid := h.laid hR.laid
  cases h with
  | other hcalls hbuffers hheap =>
    rw [PlainBuffers.perform_of_not_memory hcalls]
    refine hR.kept hbuffers ?_
    rw [hheap]
    exact .refl _ _
  | uncreated hframe _ => exact hR.kept rfl hframe
  | @created token size data usage handle r t htoken hcreated hframe _ =>
    have hR' := hR.changed hlaid (some r) (fun handle' => Table.get?_insert _ _ _ _)
      (fun r' hr' => by cases hr'; exact hcreated.mirrored) hframe fun _ _ _ _ => trivial
    rw [Option.map_some, BufferRecord.plain_created htoken hcreated] at hR'
    exact hR'
  | refused hnot =>
    rw [PlainBuffers.perform_update_refused]
    · exact hR
    · rw [← hR.accepts_iff]
      exact hnot
  | empty _ =>
    rw [PlainBuffers.perform_update_empty]
    exact hR
  | @updated handle offset length data r r' payload ring t answer hlength haccepts hasked
      hupdated =>
    obtain ⟨-, hwritten⟩ | ⟨-, hfailed⟩ := hupdated.answered
    · obtain ⟨hmirrored, hcontents⟩ := hwritten (hR.mirrored handle r hasked.live)
      obtain ⟨bytes, rfl, hbytes, hpayload⟩ := hasked.payload
      have hinside := hasked.inside
      rw [hasked.size] at hinside
      rw [hpayload] at hcontents
      have hR' := hR.changed hlaid (some r') (fun handle' => Table.get?_insert _ _ _ _)
        (fun r₁ h₁ => by cases h₁; exact hmirrored)
        hupdated.frame (hR.laid.others_apart hasked.live)
      obtain ⟨b, hb, hb'⟩ := (hR.accepts_iff handle offset (some bytes) length).mp haccepts
      have hplain : m handle = some (r.plain c.device.heap) := by
        rw [hR.plain handle, hasked.live]
        rfl
      rw [hplain] at hb
      cases hb
      rw [PlainBuffers.perform_update_accepted hplain hb']
      rw [Option.map_some, BufferRecord.plain_updated (hR.laid.record handle r hasked.live)
        hupdated.record hinside hbytes hcontents] at hR'
      exact hR'
    · exact absurd hclean hfailed
  | @unknown handle fault hgone =>
    have hsame : m.perform c.serial (.destroyBuffer handle) (.error fault) = m := by
      rw [PlainBuffers.perform, Function.update_eq_self_iff, hR.plain handle, hgone]
      rfl
    rw [hsame]
    exact hR
  | @destroyed handle r t hlive hheap _ =>
    have hframe : Heap.Frame (· ≠ r.buffer) c.device.heap t.heap := by
      rw [hheap]
      exact c.device.heap.frame_release r.buffer
    exact hR.changed hlaid none (fun handle' => Table.get?_erase _ _ _)
      (fun r' hr' => by cases hr') hframe fun handle' r' hne hr' =>
        (hR.laid.others_apart hlive handle' r' hne hr').1

/-! ### Runs -/

namespace Step

variable {es : List HostExchange} {m : PlainBuffers}

/-- Every step keeps the refinement, where no call to buffer memory fails. -/
theorem apply_refines {c : HostContext FaultyDevice} (step : Step Arming)
    (hR : (c.traced es).Refines m)
    (hclean : HostDevice.Clean (step.apply (c.traced es)).device) :
    (step.apply (c.traced es)).Refines (m.step c step) := by
  cases step with
  | perform op =>
    have hanswer : (op.apply (c.traced es)).1 = (op.apply c).1 :=
      congrArg Prod.fst (op.apply_traced c es)
    have heffect := (op.bufferEffect hR.laid).refines hR hclean
    rw [hanswer] at heffect
    exact heffect
  | adjust arming =>
    refine hR.kept rfl ?_
    rw [apply, HostDevice.adjust_heap]
    exact .refl _ _
  | setUi _ | setHost _ => exact hR.kept rfl (.refl _ _)

theorem run_refines {c : HostContext FaultyDevice} (steps : List (Step Arming))
    (hR : (c.traced es).Refines m)
    (hclean : HostDevice.Clean (run steps (c.traced es)).device) :
    (run steps (c.traced es)).Refines (PlainBuffers.run steps c m) := by
  induction steps generalizing c es m with
  | nil => exact hR
  | cons step steps ih =>
    rw [run_cons, apply_traced] at hclean ⊢
    refine ih ?_ hclean
    rw [← apply_traced]
    refine apply_refines step hR ?_
    -- What is noted after the step is noted at the end.
    rw [apply_traced]
    intro e he
    refine hclean e ?_
    rw [run_traced]
    exact List.mem_append_left _ he

end Step

/-! ### Why calls fail -/

/-- A call to buffer memory only fails where a failure was armed or memory has no room. -/
lemma Op.since_excused {c : HostContext HostDevice} (op : Op)
    (ha : c.buffers.Laid c.device.heap) :
    c.device.Since HostExchange.Excused (op.apply c).2.device := by
  by_cases hcalls : .memory ∈ op.calls
  · have heffect := op.bufferEffect ha
    revert heffect
    generalize (op.apply c).1 = answer
    generalize (op.apply c).2 = c'
    intro heffect
    cases heffect with
    | other hnot _ _ => exact absurd hcalls hnot
    | uncreated _ hsince => exact hsince
    | created _ _ _ hsince => exact hsince
    | refused _ => exact .refl _
    | empty _ => exact .refl _
    | updated _ _ _ hupdated => exact hupdated.since.mono fun e he => he.1
    | unknown _ => exact .refl _
    | destroyed _ _ hcall => exact hcall.since (HostExchange.excused_of_accepted rfl)
  · refine op.apply_keeps (Traced.keeps_since c.device fun request d hkind hfailed => ?_) c
      (.refl _)
    exact absurd (hfailed.1 ▸ hkind) hcalls

/-- In every run, calls to buffer memory only fail where a failure was armed or memory has no
room. -/
theorem Step.run_excused {c : HostContext HostDevice} (steps : List (Step Arming))
    (ha : c.buffers.Laid c.device.heap) (hc : ∀ e ∈ c.device.exchanges, HostExchange.Excused e) :
    ∀ e ∈ (run steps c).device.exchanges, HostExchange.Excused e := by
  have hboth := run_induction (I := fun c' : HostContext HostDevice =>
    c'.buffers.Laid c'.device.heap ∧ ∀ e ∈ c'.device.exchanges, HostExchange.Excused e)
    ?_ steps ⟨ha, hc⟩
  · exact hboth.2
  · rintro step c' ⟨hlaid, hexcused⟩
    refine ⟨(step.apply_laid hlaid).1, ?_⟩
    cases step with
    | perform op =>
      obtain ⟨es, hes, hall⟩ := op.since_excused hlaid
      intro e he
      rw [apply, hes] at he
      rcases List.mem_append.mp he with he | he
      · exact hexcused e he
      · exact hall e he
    | adjust arming => exact hexcused
    | setUi _ | setHost _ => exact hexcused

/-! ### What a host sees -/

/-- The slots that can be read, and what is read of them. -/
lemma BufferRecord.Laid.read_eq {d : FaultyDevice} {r : BufferRecord} (hr : r.Laid d.heap)
    {slot : ℕ} (hslot : slot < r.slotCount) :
    ReadableDevice.readBuffer r.buffer (r.slotOffset slot) r.size d =
      some ((d.heap.contents r.buffer).slice (r.slotOffset slot) r.size) := by
  have hfits := hr.slot_fits hslot (Nat.zero_add r.size).le
  rw [Nat.zero_add] at hfits
  change MemoryDevice.readBuffer r.buffer (r.slotOffset slot) r.size d.memory = _
  have hrange : MemoryDevice.checkRange (d.memory.contents r.buffer).size (r.slotOffset slot)
      r.size = .ok () := if_pos hfits
  rw [MemoryDevice.readBuffer, hrange]
  rfl

/-- What is read of a slot is what the plain buffer has there. -/
lemma Context.readSlot_ok_iff {c : HostContext FaultyDevice} {m : PlainBuffers}
    (hlaid : c.buffers.Laid c.device.heap)
    (hplain : ∀ handle, m handle = (c.buffers.records.get? handle).map (·.plain c.device.heap))
    (handle : BufferHandle) (slot : ℕ) (bytes : Bytes) :
    c.readSlot handle slot = .ok bytes ↔ ∃ b, m handle = some b ∧ b.slots[slot]? = some bytes := by
  rw [readSlot, hplain handle]
  rcases c.buffers.find_cases handle with ⟨r, hlive, hfind⟩ | ⟨hgone, hfind⟩
  · have hr : r.Laid c.device.heap := hlaid.record handle r hlive
    have hslots : (r.plain c.device.heap).slots[slot]? = if slot < r.slotCount then
        some ((c.device.heap.contents r.buffer).slice (r.slotOffset slot) r.size) else none :=
      r.getElem?_slices (c.device.heap.contents r.buffer) slot
    rw [hfind, hlive]
    dsimp only
    by_cases hslot : slot < r.slotCount
    · rw [if_pos hslot] at hslots
      rw [if_neg (Nat.not_le_of_lt hslot), hr.read_eq hslot]
      constructor
      · intro hok
        cases hok
        exact ⟨_, rfl, hslots⟩
      · rintro ⟨b, hb, hbytes⟩
        cases hb
        rw [hslots] at hbytes
        cases hbytes
        rfl
    · rw [if_neg hslot] at hslots
      rw [if_pos (Nat.le_of_not_lt hslot)]
      constructor
      · intro hok
        cases hok
      · rintro ⟨b, hb, hbytes⟩
        cases hb
        rw [hslots] at hbytes
        cases hbytes
  · rw [hfind, hgone]
    constructor
    · intro hok
      cases hok
    · rintro ⟨b, hb, -⟩
      cases hb

/-- An update succeeds exactly where the plain buffer accepts it, if no call to buffer memory
fails. -/
lemma Context.Refines.update_ok_iff {c : HostContext FaultyDevice} {m : PlainBuffers}
    (hR : (c.traced []).Refines m) (handle : BufferHandle) (offset : ℤ) (data : Option Bytes)
    (length : ℤ)
    (hclean : ∀ e ∈ Op.exchanges (.updateBuffer handle offset data length) c,
      ¬ HostExchange.Failed e) :
    (Op.apply (.updateBuffer handle offset data length) c).1 = .ok .done ↔
      ∃ b, m handle = some b ∧ b.Accepts offset data length := by
  have heffect := Op.bufferEffect (.updateBuffer handle offset data length) hR.laid
  have hdevice : HostDevice.Clean
      (Op.apply (.updateBuffer handle offset data length) (c.traced [])).2.device := hclean
  have hanswer := congrArg Prod.fst (Op.apply_traced (.updateBuffer handle offset data length) c [])
  rw [← hR.accepts_iff, ← hanswer]
  revert heffect hdevice
  generalize (Op.apply (.updateBuffer handle offset data length) (c.traced [])).1 = answer
  generalize (Op.apply (.updateBuffer handle offset data length) (c.traced [])).2 = c'
  intro heffect hdevice
  cases heffect with
  | other hcalls _ _ => exact absurd (List.mem_singleton.mpr rfl) hcalls
  | refused hnot =>
    refine ⟨fun herror => ?_, fun haccepts => absurd haccepts hnot⟩
    cases herror
  | empty haccepts => exact ⟨fun _ => haccepts, fun _ => rfl⟩
  | updated _ haccepts _ hupdated =>
    rcases hupdated.answered with ⟨rfl, -⟩ | ⟨-, hfailed⟩
    · exact ⟨fun _ => haccepts, fun _ => rfl⟩
    · exact absurd hdevice hfailed

/-- A context without buffers starts from no plain buffers. -/
lemma Context.refines_ofDevice {d : FaultyDevice} (hpow : d.PowerAligned) (config : Config)
    (ui : UiThread) (es : List HostExchange) :
    ((ofDevice config ui d).traced es).Refines fun _ => none := by
  refine ⟨.ofConfig hpow.granule_pow _ _, ?_, fun _ => rfl⟩
  intro handle r hr
  cases hr

/-- **Buffers are plain byte strings.** Take any run on a device in host memory whose copies are in
granules of any power of two, with a staging ring of any capacity. Calls to buffer memory only fail
where a failure was armed or memory has no room. Where none of the run fails, a buffer is live
exactly where its plain buffer is; an update succeeds exactly where the plain buffer accepts it; and
every slot reads as that of the plain buffer. -/
theorem buffers_refine_plain (config : Config) (ui : UiThread) (d : FaultyDevice)
    (hpow : d.PowerAligned) (steps : List (Step Arming)) :
    let c₀ : HostContext FaultyDevice := .ofDevice config ui d
    let c := Step.run steps c₀
    let m := PlainBuffers.run steps c₀ fun _ => none
    (∀ e ∈ Step.trace steps c₀, HostExchange.Excused e) ∧
    ((∀ e ∈ Step.trace steps c₀, ¬ HostExchange.Failed e) →
      (∀ handle, c.buffers.records.contains handle = (m handle).isSome) ∧
      (∀ handle offset data length,
        (∀ e ∈ Op.exchanges (.updateBuffer handle offset data length) c,
          ¬ HostExchange.Failed e) →
        ((Op.apply (.updateBuffer handle offset data length) c).1 = .ok .done ↔
          ∃ b, m handle = some b ∧ b.Accepts offset data length)) ∧
      (∀ handle slot bytes, c.readSlot handle slot = .ok bytes ↔
        ∃ b, m handle = some b ∧ b.slots[slot]? = some bytes)) := by
  intro c₀ c m
  have hstart := Context.refines_ofDevice hpow config ui []
  refine ⟨Step.run_excused steps hstart.laid (List.forall_mem_nil _), fun hclean => ?_⟩
  have hR : (c.traced ([] ++ Step.trace steps c₀)).Refines m := by
    rw [← Step.run_traced]
    exact Step.run_refines steps hstart hclean
  refine ⟨fun handle => ?_, fun handle offset data length hop => ?_, ?_⟩
  · rw [hR.plain handle, Option.isSome_map]
    rfl
  · have hbare : (c.traced []).Refines m := hR.kept rfl (.refl _ _)
    exact hbare.update_ok_iff handle offset data length hop
  · intro handle slot bytes
    exact Context.readSlot_ok_iff hR.laid hR.plain handle slot bytes

/-- A run that makes a static buffer of six bytes and replaces two in the middle. -/
def patchedRun : List (Step Arming) := [.perform (.createBuffer 0 6 (some #[1, 2, 3])),
  .perform (.updateBuffer .first 1 (some #[9, 8]) 2)]

/-- On a device that copies in granules of four, the whole buffer reads as patched. -/
theorem buffers_refine_plain_patchedRun :
    (FaultyDevice.ofAlignment (2 ^ 2)).PowerAligned ∧
      let c₀ : HostContext FaultyDevice := .ofDevice {} .stopped (.ofAlignment (2 ^ 2))
      (∀ e ∈ Step.trace patchedRun c₀, ¬ HostExchange.Failed e) ∧
        (Step.run patchedRun c₀).readSlot .first 0 = .ok #[1, 9, 8, 0, 0, 0] := by
  have hpow := FaultyDevice.powerAligned_ofAlignment (k := 2) (by decide)
  have haccepted : (Step.trace patchedRun (.ofDevice {} .stopped (.ofAlignment (2 ^ 2)) :
      HostContext FaultyDevice)).map (·.accepted) = [true, true, true] := by decide +kernel
  have hplain : PlainBuffers.run patchedRun (.ofDevice {} .stopped (.ofAlignment (2 ^ 2)) :
      HostContext FaultyDevice) (fun _ => none) .first =
        some ⟨6, [#[1, 9, 8, 0, 0, 0]]⟩ := by decide +kernel
  refine ⟨hpow, ?_⟩
  intro c₀
  have hclean : ∀ e ∈ Step.trace patchedRun c₀, ¬ HostExchange.Failed e := by
    intro e he hfailed
    have hmem := List.mem_map_of_mem (f := (·.accepted)) he
    rw [haccepted, hfailed.2] at hmem
    simp at hmem
  obtain ⟨-, -, hread⟩ := (buffers_refine_plain {} .stopped _ hpow patchedRun).2 hclean
  exact ⟨hclean, (hread _ 0 _).mpr ⟨_, hplain, rfl⟩⟩

end RenderBridge
