import RenderBridge.Proofs.Buffer.Contents
/-!
What buffers were meant to hold and what the device holds, where updates fail. The shadow of a
buffer is brought up to date before the device is asked, so it runs ahead of the device where the
device fails; later updates take the bytes beside their range from there.

* `HeldBuffers`, `HeldBuffers.run`: plain buffers of both kinds, and what a run makes of them.
* `Context.Holds`: the buffers of a context are read as they are held, and their shadows are as they
  were meant.
* `Step.apply_holds`, `run_holds`: **every step keeps it**, whatever fails, and so does every run.
-/

set_option autoImplicit false

namespace RenderBridge

/-! ### Buffers that hold what they can -/

/-- The buffer with the bytes beside a range of the slot of a frame, in the granules of the range,
as they were meant. -/
def PlainBuffer.edged (b meant : PlainBuffer) (serial : FrameSerial) (granule offset length : ℕ) :
    PlainBuffer where
  size := b.size
  slots := b.slots.modify (serial.count.toNat % b.slots.length) fun slot =>
    slot.edged (meant.slots.getD (serial.count.toNat % b.slots.length) #[]) granule offset length

/-- The buffers of a host as they were meant, and as the device holds them. -/
structure HeldBuffers where
  meant : PlainBuffers
  held : PlainBuffers

namespace HeldBuffers

/-- No buffers. -/
def empty : HeldBuffers := ⟨fun _ => none, fun _ => none⟩

/-- The held buffers with the bytes beside a range as they were meant. -/
def edged (b : HeldBuffers) (granule : ℕ) (serial : FrameSerial) (handle : BufferHandle)
    (offset length : ℕ) : PlainBuffers :=
  Function.update b.held handle ((b.held handle).bind fun held =>
    (b.meant handle).map fun meant => held.edged meant serial granule offset length)

/-- What an operation in a frame makes of the buffers. An update is meant whether it fails or not.
One that fails is not held; one that succeeds brings along what was meant beside it. -/
def perform (granule : ℕ) (b : HeldBuffers) (serial : FrameSerial) (op : Op)
    (answer : Except Fault Reply) : HeldBuffers where
  meant := b.meant.perform serial op answer
  held :=
    match op, answer with
    | .updateBuffer .., .error _ => b.held
    | .updateBuffer handle offset _ length, .ok _ =>
      (b.edged granule serial handle offset.toNat length.toNat).perform serial op answer
    | op, answer => b.held.perform serial op answer

variable {δ α P D : Type} [Device δ P D] [Adjustable δ α]

/-- What a step of a context makes of the buffers. -/
def step (granule : ℕ) (b : HeldBuffers) (c : Context δ P D) : Step α → HeldBuffers
  | .perform op => b.perform granule c.serial op (op.apply c).1
  | .adjust _ | .setUi _ | .setHost _ => b

/-- What a run from a context makes of the buffers. -/
def run (granule : ℕ) : List (Step α) → Context δ P D → HeldBuffers → HeldBuffers
  | [], _, b => b
  | s :: steps, c, b => run granule steps (s.apply c) (b.step granule c s)

variable {granule : ℕ} {b : HeldBuffers} {serial : FrameSerial} {answer : Except Fault Reply}

/-- Only operations on buffers change buffers. -/
lemma perform_of_not_memory {op : Op} (h : .memory ∉ op.calls) :
    b.perform granule serial op answer = b := by
  cases op with
  | createBuffer | updateBuffer | destroyBuffer => exact absurd (List.mem_singleton.mpr rfl) h
  | _ => rfl

variable {handle : BufferHandle} {offset length : ℤ} {data : Option Bytes} {p q : PlainBuffer}

/-- An update that succeeds brings along what was meant beside it. -/
lemma perform_update_held {reply : Reply} (hp : b.held handle = some p)
    (hq : b.meant handle = some q) (hp' : p.Accepts offset data length)
    (hq' : q.Accepts offset data length) :
    b.perform granule serial (.updateBuffer handle offset data length) (.ok reply) =
      ⟨Function.update b.meant handle
          (some (q.patch serial offset.toNat length.toNat (data.getD #[]))),
        Function.update b.held handle
          (some ((p.edged q serial granule offset.toNat length.toNat).patch serial offset.toNat
            length.toNat (data.getD #[])))⟩ := by
  have hedged : b.edged granule serial handle offset.toNat length.toNat = Function.update b.held
      handle (some (p.edged q serial granule offset.toNat length.toNat)) := by
    rw [edged, hp, hq]
    rfl
  have hp'' : (p.edged q serial granule offset.toNat length.toNat).Accepts offset data length := hp'
  change HeldBuffers.mk (b.meant.perform _ _ _) ((b.edged granule serial handle offset.toNat
    length.toNat).perform _ _ _) = _
  rw [PlainBuffers.perform_update_accepted hq hq', hedged,
    PlainBuffers.perform_update_accepted (Function.update_self _ _ _) hp'', Function.update_idem]

/-- An update that fails is meant. -/
lemma perform_update_failed {fault : Fault} (hq : b.meant handle = some q)
    (hq' : q.Accepts offset data length) :
    b.perform granule serial (.updateBuffer handle offset data length) (.error fault) =
      ⟨Function.update b.meant handle
          (some (q.patch serial offset.toNat length.toNat (data.getD #[]))), b.held⟩ := by
  change HeldBuffers.mk (b.meant.perform _ _ _) b.held = _
  rw [PlainBuffers.perform_update_accepted hq hq']

end HeldBuffers

/-! ### What the device holds -/

/-- An upload that is sent brings along what was meant beside it. -/
lemma BufferRecord.slices_edged {h : Heap} {r : BufferRecord} (hr : r.Laid h)
    {contents meant : Bytes} (hcontents : contents.size = r.total) (hmeant : meant.size = r.total)
    (serial : FrameSerial) {offset length : ℕ} (hinside : offset + length ≤ r.size) :
    r.slices (contents.edged meant h.granule (r.activeOffset serial + offset) length) =
      (r.slices contents).edged (r.slices meant) serial h.granule offset length := by
  have hle := hr.size_le
  have hend := slotOffset_add_le (r.activeSlot_lt serial)
  have hoffset : r.activeOffset serial = r.slotOffset (r.activeSlot serial) := rfl
  have hsource : (r.slices meant).slots.getD (r.activeSlot serial) #[] =
      meant.slice (r.slotOffset (r.activeSlot serial)) r.size := by
    rw [List.getD_eq_getElem?_getD, getElem?_slices, if_pos (r.activeSlot_lt serial)]
    rfl
  have hin : r.slotOffset (r.activeSlot serial) + r.size ≤ contents.size := by
    rw [hcontents]
    omega
  refine slices_eq_modify serial ?_ fun slot hslot hother => ?_
  · rw [activeSlot_slices, hsource]
    exact Bytes.slice_edged h.granule_pos (hr.granule_dvd_slotOffset _)
      (hmeant.trans hcontents.symm) hin
  · have hslotend := slotOffset_add_le hslot
    have hapart := slotOffset_apart (r := r) hother
    exact Bytes.slice_edged_of_apart h.granule_pos (hr.granule_dvd_slotOffset slot)
      ((hr.granule_dvd_slotOffset slot).add hr.granule_dvd) (by omega) (by omega)
      (hmeant.trans hcontents.symm)

/-- A plain buffer is what a buffer was meant to hold: what its shadow says, where there is one. -/
def BufferRecord.Means (r : BufferRecord) (p : PlainBuffer) : Prop :=
  ∃ contents, r.Backs contents ∧ p = r.slices contents

/-- The buffers of a context are laid out; what is read of them is held, and their shadows are
meant. -/
structure Context.Holds (c : HostContext HostDevice) (granule : ℕ) (b : HeldBuffers) : Prop where
  granule_eq : c.device.heap.granule = granule
  laid : c.buffers.Laid c.device.heap
  held : ∀ handle, b.held handle =
    (c.buffers.records.get? handle).map (·.plain c.device.heap)
  meant : ∀ handle, Option.Rel BufferRecord.Means (c.buffers.records.get? handle) (b.meant handle)

namespace Context.Holds

variable {c c' : HostContext HostDevice} {granule : ℕ} {b : HeldBuffers}

/-- Where the buffers stay and the device keeps them, they are held as before. -/
lemma kept (hH : c.Holds granule b) (hbuffers : c'.buffers = c.buffers)
    (hf : Heap.Frame (fun _ => True) c.device.heap c'.device.heap) : c'.Holds granule b where
  granule_eq := hf.granule.trans hH.granule_eq
  laid := by
    rw [hbuffers]
    exact hH.laid.frame hf
  held := plain_kept hH.laid hH.held hbuffers hf
  meant := by
    rw [hbuffers]
    exact hH.meant

/-- Where one buffer is made, changed or ended and the others are kept, the others are held as
before. -/
lemma changed (hH : c.Holds granule b) (hlaid : c'.buffers.Laid c'.device.heap)
    {handle : BufferHandle} (changed : Option BufferRecord) {meant : Option PlainBuffer}
    (hrecords : ∀ handle', c'.buffers.records.get? handle' =
      if handle' = handle then changed else c.buffers.records.get? handle')
    (hmeant : Option.Rel BufferRecord.Means changed meant) {kept : BufferId → Prop}
    (hf : Heap.Frame kept c.device.heap c'.device.heap)
    (hkept : ∀ handle' r, handle' ≠ handle → c.buffers.records.get? handle' = some r →
      kept r.buffer) :
    c'.Holds granule ⟨Function.update b.meant handle meant,
      Function.update b.held handle (changed.map (·.plain c'.device.heap))⟩ where
  granule_eq := hf.granule.trans hH.granule_eq
  laid := hlaid
  held := plain_changed hH.laid hH.held changed hrecords hf hkept
  meant handle' := by
    dsimp only
    rw [hrecords, Function.update_apply]
    split
    · exact hmeant
    · exact hH.meant handle'

/-- What is meant of a live buffer. -/
lemma exists_meant (hH : c.Holds granule b) {handle : BufferHandle} {r : BufferRecord}
    (hr : c.buffers.records.get? handle = some r) :
    ∃ contents, r.Backs contents ∧ b.meant handle = some (r.slices contents) := by
  have hmeant := hH.meant handle
  rw [hr] at hmeant
  cases hb : b.meant handle with
  | none =>
    rw [hb] at hmeant
    cases hmeant
  | some p =>
    rw [hb] at hmeant
    cases hmeant with
    | some h =>
      obtain ⟨contents, hbacks, rfl⟩ := h
      exact ⟨contents, hbacks, rfl⟩

/-- Nothing is meant of a buffer that is gone. -/
lemma meant_of_gone (hH : c.Holds granule b) {handle : BufferHandle}
    (hgone : c.buffers.records.get? handle = none) : b.meant handle = none := by
  have hmeant := hH.meant handle
  rw [hgone] at hmeant
  cases hb : b.meant handle with
  | none => rfl
  | some p =>
    rw [hb] at hmeant
    cases hmeant

/-- An update is accepted exactly where the buffer as it was meant accepts it. -/
lemma accepts_iff (hH : c.Holds granule b) (handle : BufferHandle) (offset : ℤ)
    (data : Option Bytes) (length : ℤ) :
    c.buffers.Accepts handle offset data length ↔
      ∃ p, b.meant handle = some p ∧ p.Accepts offset data length := by
  constructor
  · rintro ⟨r, hr, haccepts⟩
    obtain ⟨contents, -, hmeant⟩ := hH.exists_meant hr
    exact ⟨_, hmeant, haccepts⟩
  · rintro ⟨p, hp, haccepts⟩
    cases hr : c.buffers.records.get? handle with
    | none =>
      rw [hH.meant_of_gone hr] at hp
      cases hp
    | some r =>
      obtain ⟨contents, -, hmeant⟩ := hH.exists_meant hr
      rw [hmeant] at hp
      cases hp
      exact ⟨r, hr, haccepts⟩

/-- A buffer that is not accepted to be updated stays. -/
lemma perform_refused (hH : c.Holds granule b) {serial : FrameSerial} {handle : BufferHandle}
    {offset length : ℤ} {data : Option Bytes} {fault : Fault}
    (hnot : ¬ c.buffers.Accepts handle offset data length) :
    b.perform granule serial (.updateBuffer handle offset data length) (.error fault) = b := by
  rw [hH.accepts_iff] at hnot
  rw [HeldBuffers.perform, PlainBuffers.perform_update_refused hnot]

end Context.Holds

/-- An update of no bytes changes nothing. -/
lemma HeldBuffers.perform_update_empty {granule : ℕ} {b : HeldBuffers} {serial : FrameSerial}
    {handle : BufferHandle} {offset : ℤ} {data : Option Bytes} {reply : Reply}
    (hshape : (b.held handle).isSome → (b.meant handle).isSome) :
    b.perform granule serial (.updateBuffer handle offset data 0) (.ok reply) = b := by
  have hedged : ∀ p q : PlainBuffer, ∀ n, p.edged q serial granule n 0 = p := by
    intro p q n
    have hid : (fun slot : Bytes => slot.edged
        (q.slots.getD (serial.count.toNat % p.slots.length) #[]) granule n 0) = id :=
      funext fun slot => Bytes.edged_of_not_beside (Bytes.not_beside_empty granule n) slot _
    rw [PlainBuffer.edged, hid, List.modify_id]
  have hheld : b.edged granule serial handle offset.toNat (Int.toNat 0) = b.held := by
    rw [edged, Function.update_eq_self_iff]
    cases hp : b.held handle with
    | none => rfl
    | some p =>
      rw [hp] at hshape
      obtain ⟨q, hq⟩ := Option.isSome_iff_exists.mp (hshape rfl)
      rw [hq, Option.bind_some, Option.map_some, Int.toNat_zero, hedged]
  change HeldBuffers.mk (b.meant.perform serial _ _)
    ((b.edged granule serial handle offset.toNat (Int.toNat 0)).perform serial _ _) = b
  rw [hheld, PlainBuffers.perform_update_empty, PlainBuffers.perform_update_empty]

/-- What an update that is sent, or is not, makes of a buffer. -/
lemma BufferAllocator.Updated.held_cases {t t' : HostDevice} {ring ring' : StagingRing}
    {r r' : BufferRecord} {serial : FrameSerial} {offset length : ℕ} {data : Bytes}
    {answer : Except Fault Unit}
    (hu : Updated t t' ring ring' r r' serial offset (data.slice 0 length) answer)
    (hr : r.Laid t.heap) (hinside : offset + length ≤ r.size) (hdata : length ≤ data.size)
    (hpos : 0 < length) {meant : Bytes} (hmeant : r.Backs meant) :
    r'.Means ((r.slices meant).patch serial offset length data) ∧
      ((answer = .ok () ∧ r'.plain t'.heap =
          ((r.plain t.heap).edged (r.slices meant) serial t.heap.granule offset length).patch
            serial offset length data) ∨
        ((∃ fault, answer = .error fault) ∧ r'.plain t'.heap = r.plain t.heap)) := by
  have hle := hr.size_le
  have hend := BufferRecord.slotOffset_add_le (r.activeSlot_lt serial)
  have hoffset : r.activeOffset serial = r.slotOffset (r.activeSlot serial) := rfl
  have hsize : (data.slice 0 length).size = length := Bytes.size_slice (by omega)
  obtain ⟨upload, hstage, hsent⟩ := hu.sent
  obtain ⟨hbacks, hoverwrite⟩ := BufferRecord.stage_sends hr hmeant hr.contents_size
    (by rw [hsize]; exact hpos) (by rw [hsize]; omega) hstage
  rw [hsize] at hoverwrite
  have hslices : r'.slices = r.slices := by
    rw [hu.record]
    rfl
  have hplain : r'.plain t'.heap = r.slices (t'.heap.contents r.buffer) := by
    rw [hu.record]
    rfl
  refine ⟨⟨_, hbacks, ?_⟩, ?_⟩
  · rw [hslices, BufferRecord.slices_overwrite hle hmeant.1 serial hinside hdata]
  · rw [hplain]
    rcases hsent with ⟨hok, hcontents⟩ | ⟨herror, hcontents⟩
    · refine .inl ⟨hok, ?_⟩
      have hedged := BufferRecord.slices_edged hr hr.contents_size hmeant.1 serial hinside
      rw [hcontents, hoverwrite, BufferRecord.slices_overwrite hle
        (by rw [Bytes.size_edged, hr.contents_size]) serial hinside hdata, hedged]
      rfl
    · refine .inr ⟨herror, ?_⟩
      rw [hcontents]
      rfl

namespace Context.Holds

variable {c c' : HostContext HostDevice} {granule : ℕ} {b : HeldBuffers}

/-- The end of a buffer that is gone changes nothing. -/
lemma perform_gone (hH : c.Holds granule b) {serial : FrameSerial} {handle : BufferHandle}
    {fault : Fault} (hgone : c.buffers.records.get? handle = none) :
    b.perform granule serial (.destroyBuffer handle) (.error fault) = b := by
  have hheld : b.held.perform serial (.destroyBuffer handle) (.error fault) = b.held := by
    rw [PlainBuffers.perform, Function.update_eq_self_iff, hH.held handle, hgone]
    rfl
  have hmeant : b.meant.perform serial (.destroyBuffer handle) (.error fault) = b.meant := by
    rw [PlainBuffers.perform, Function.update_eq_self_iff, hH.meant_of_gone hgone]
  change HeldBuffers.mk (b.meant.perform _ _ _) (b.held.perform _ _ _) = b
  rw [hheld, hmeant]

/-- An accepted update of some bytes is meant, and held where it succeeds. -/
lemma updated (hH : c.Holds granule b) (hlaid : c'.buffers.Laid c'.device.heap)
    {handle : BufferHandle} {offset length : ℤ} {data : Option Bytes} {r r' : BufferRecord}
    {payload : Bytes} {answer : Except Fault Unit}
    (hrecords : c'.buffers.records = c.buffers.records.insert handle r') (hlength : length ≠ 0)
    (haccepts : c.buffers.Accepts handle offset data length)
    (hasked : c.buffers.Asked handle offset data length r payload)
    (hupdated : BufferAllocator.Updated c.device c'.device c.buffers.ring c'.buffers.ring r r'
      c.serial offset.toNat payload answer) :
    c'.Holds granule (b.perform granule c.serial (.updateBuffer handle offset data length)
      (answer.map fun _ => .done)) := by
  obtain ⟨meant, hbacks, hmeant⟩ := hH.exists_meant hasked.live
  obtain ⟨bytes, rfl, hbytes, rfl⟩ := hasked.payload
  have hr := hH.laid.record handle r hasked.live
  have hinside := hasked.inside
  rw [hasked.size] at hinside
  have hpos : 0 < length.toNat := by
    obtain ⟨-, -, -, hlength', -⟩ := haccepts
    omega
  obtain ⟨hmeans, hheld⟩ := hupdated.held_cases hr hinside hbytes hpos hbacks
  have hH' := hH.changed hlaid (some r')
    (fun handle' => by rw [hrecords]; exact Table.get?_insert _ _ _ _) (.some hmeans)
    hupdated.frame (hH.laid.others_apart hasked.live)
  have haccepts' : (r.slices meant).Accepts offset (some bytes) length := by
    obtain ⟨p, hp, h⟩ := (hH.accepts_iff handle offset (some bytes) length).mp haccepts
    cases hmeant.symm.trans hp
    exact h
  have hplain : b.held handle = some (r.plain c.device.heap) := by
    rw [hH.held handle, hasked.live]
    rfl
  rw [Option.map_some] at hH'
  rcases hheld with ⟨rfl, hheld⟩ | ⟨⟨fault, rfl⟩, hheld⟩
  · rw [hheld, hH.granule_eq] at hH'
    change c'.Holds granule (b.perform granule c.serial _ (.ok .done))
    rw [HeldBuffers.perform_update_held hplain hmeant haccepts' haccepts']
    exact hH'
  · have hsame : Function.update b.held handle (some (r'.plain c'.device.heap)) = b.held := by
      rw [Function.update_eq_self_iff, hheld, hplain]
    rw [hsame] at hH'
    change c'.Holds granule (b.perform granule c.serial _ (.error fault))
    rw [HeldBuffers.perform_update_failed hmeant haccepts']
    exact hH'

end Context.Holds

/-- Every operation keeps what the device holds and what was meant, whatever fails. -/
lemma Op.BufferEffect.holds {c c' : HostContext HostDevice} {granule : ℕ} {b : HeldBuffers}
    {op : Op} {answer : Except Fault Reply} (h : BufferEffect c op answer c')
    (hH : c.Holds granule b) : c'.Holds granule (b.perform granule c.serial op answer) := by
  have hlaid := h.laid hH.laid
  cases h with
  | other hcalls hbuffers hheap =>
    rw [HeldBuffers.perform_of_not_memory hcalls]
    refine hH.kept hbuffers ?_
    rw [hheap]
    exact .refl _ _
  | uncreated hframe _ => exact hH.kept rfl hframe
  | @created token size data usage handle r t htoken hcreated hframe _ =>
    have hplain := BufferRecord.plain_created htoken hcreated
    have hmeant : r.Means (.make token size data) :=
      ⟨t.heap.contents r.buffer, ⟨hcreated.laid.contents_size, hcreated.mirrored⟩, hplain.symm⟩
    have hH' := hH.changed hlaid (some r) (fun handle' => Table.get?_insert _ _ _ _)
      (.some hmeant) hframe fun _ _ _ _ => trivial
    rw [Option.map_some, hplain] at hH'
    exact hH'
  | refused hnot =>
    rw [hH.perform_refused hnot]
    exact hH
  | @empty handle offset data haccepts =>
    rw [HeldBuffers.perform_update_empty]
    · exact hH
    · obtain ⟨p, hp, -⟩ := (hH.accepts_iff handle offset data 0).mp haccepts
      rw [hp]
      exact fun _ => rfl
  | updated hlength haccepts hasked hupdated =>
    exact hH.updated hlaid rfl hlength haccepts hasked hupdated
  | unknown hgone =>
    rw [hH.perform_gone hgone]
    exact hH
  | @destroyed handle r t hlive hheap _ =>
    have hframe : Heap.Frame (· ≠ r.buffer) c.device.heap t.heap := by
      rw [hheap]
      exact c.device.heap.frame_release r.buffer
    exact hH.changed hlaid none (fun handle' => Table.get?_erase _ _ _) .none hframe
      fun handle' r' hne hr' => (hH.laid.others_apart hlive handle' r' hne hr').1

/-! ### Runs -/

namespace Step

variable {granule : ℕ} {b : HeldBuffers} {es : List HostExchange}

/-- Every step keeps what the device holds and what was meant, whatever fails. -/
theorem apply_holds {c : HostContext FaultyDevice} (step : Step Arming)
    (hH : (c.traced es).Holds granule b) :
    (step.apply (c.traced es)).Holds granule (b.step granule c step) := by
  cases step with
  | perform op =>
    have hanswer : (op.apply (c.traced es)).1 = (op.apply c).1 :=
      congrArg Prod.fst (op.apply_traced c es)
    have heffect := (op.bufferEffect hH.laid).holds hH
    rw [hanswer] at heffect
    exact heffect
  | adjust arming =>
    refine hH.kept rfl ?_
    rw [apply, HostDevice.adjust_heap]
    exact .refl _ _
  | setUi _ | setHost _ => exact hH.kept rfl (.refl _ _)

theorem run_holds {c : HostContext FaultyDevice} (steps : List (Step Arming))
    (hH : (c.traced es).Holds granule b) :
    ((run steps c).traced (es ++ trace steps c)).Holds granule
      (HeldBuffers.run granule steps c b) := by
  rw [← run_traced]
  induction steps generalizing c es b with
  | nil => exact hH
  | cons step steps ih =>
    have happly := apply_holds step hH
    rw [apply_traced] at happly
    rw [run_cons, apply_traced]
    exact ih happly

end Step

/-- A context without buffers holds none. -/
lemma Context.holds_ofDevice {d : FaultyDevice} (hpow : d.PowerAligned) (config : Config)
    (ui : UiThread) (es : List HostExchange) :
    ((ofDevice config ui d).traced es).Holds d.heap.granule .empty where
  granule_eq := rfl
  laid := .ofConfig hpow.granule_pow _ _
  held _ := rfl
  meant _ := .none

/-- A slot of a live buffer. -/
def PlainBuffers.slot (m : PlainBuffers) (handle : BufferHandle) (slot : ℕ) : Option Bytes :=
  (m handle).bind (·.slots[slot]?)

/-- What is read of a slot is what is held there. -/
lemma Context.Holds.readSlot_eq {c : HostContext FaultyDevice} {es : List HostExchange}
    {granule : ℕ} {b : HeldBuffers} (hH : (c.traced es).Holds granule b) (handle : BufferHandle)
    (slot : ℕ) : (c.readSlot handle slot).toOption = b.held.slot handle slot := by
  have hread := Context.readSlot_ok_iff hH.laid hH.held handle slot
  ext bytes
  rw [PlainBuffers.slot, Option.bind_eq_some_iff, ← hread]
  cases c.readSlot handle slot with
  | error fault => simp [Except.toOption]
  | ok read => simp [Except.toOption]

end RenderBridge
