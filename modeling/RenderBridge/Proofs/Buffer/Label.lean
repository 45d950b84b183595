import RenderBridge.Proofs.Buffer.Update
import RenderBridge.Proofs.Context.Frame
import RenderBridge.Proofs.Device.Heap
/-!
The labels with which device buffers are made.

* `Request.label?`, `Exchange.Names`: the label that a call asks for where it makes a buffer.
* `BufferAllocator.create_names`, `update_names`: the buffers of the host are labelled where labels
  are wanted. The buffer of the staging ring always is.
* `BufferAllocator.Stages`, `update_snd`: the updates that go through the staging ring.
* `Op.Names`, `Op.names_exchanges`: **which operations ask for device buffers**, and with which
  labels.
* `Step.names_trace_iff`: **the runs that ask for all buffers as the flag says** are those without
  such an update.
-/

set_option autoImplicit false

namespace RenderBridge

variable {δ P D : Type}

/-- The label that a call asks for with a buffer; none for calls that make no buffer. -/
def Request.label? : Request P D → Option (Option String)
  | .createBuffer _ label => some label
  | _ => none

/-- Where the call makes a buffer, it asks for a label like this. -/
def Exchange.Names (named : Option String → Prop) (e : Exchange δ P D) : Prop :=
  ∀ label, e.request.label? = some label → named label

lemma Request.kind_of_label {request : Request P D} {label : Option String}
    (h : request.label? = some label) : request.kind = .memory := by
  cases request with
  | createBuffer => rfl
  | _ => cases h

/-- What was called stays noted. -/
lemma Traced.Since.mem {Q : Exchange δ P D → Prop} {t t' : Traced δ P D} (h : t.Since Q t') :
    ∀ e ∈ t.exchanges, e ∈ t'.exchanges := by
  obtain ⟨es, hes, -⟩ := h
  rw [hes]
  exact fun e => List.mem_append_left es

/-- A call that asks for a buffer with this label was made. -/
def Traced.AskedFor (label : Option String) (t : Traced δ P D) : Prop :=
  ∃ e ∈ t.exchanges, e.request.label? = some label

lemma Traced.AskedFor.since {Q : Exchange δ P D → Prop} {t t' : Traced δ P D}
    {label : Option String} (h : t.AskedFor label) (hlater : t.Since Q t') :
    t'.AskedFor label := by
  obtain ⟨e, he, hlabel⟩ := h
  exact ⟨e, hlater.mem e he, hlabel⟩

variable [Device δ P D] {named : Option String → Prop} {t t' : Traced δ P D}

lemma Traced.Since.of_call (request : Request P D)
    {answer : Except DeviceFault request.Answer} (h : t.call request = (answer, t'))
    (hnames : ∀ label, request.label? = some label → named label) :
    t.Since (Exchange.Names named) t' := by
  obtain rfl : (t.call request).2 = t' := congrArg Prod.snd h
  exact ⟨[.of request t.device], rfl, List.forall_mem_singleton.mpr hnames⟩

/-- A call that makes no buffer. -/
lemma Traced.Since.of_silent (request : Request P D)
    {answer : Except DeviceFault request.Answer} (h : t.call request = (answer, t'))
    (hsilent : request.label? = none) : t.Since (Exchange.Names named) t' := by
  refine .of_call request h fun label hlabel => ?_
  cases hsilent.symm.trans hlabel

/-! ### The buffers of the host -/

namespace BufferAllocator

lemma writeSlots_names (bytes : Bytes) (slots : List ℕ) (r : BufferRecord) (t : Traced δ P D) :
    t.Since (Exchange.Names named) (writeSlots bytes slots r t).2 := by
  induction slots generalizing r t with
  | nil => exact .refl t
  | cons slot rest ih =>
    rw [writeSlots]
    dsimp only
    split
    · rename_i hcall
      exact .trans (.of_silent (.writeBuffer ..) hcall rfl) (ih _ _)
    · rename_i hcall
      exact .of_silent (.writeBuffer ..) hcall rfl

lemma fill_names {host : HostMemory} {r : BufferRecord} {data : Option Bytes}
    {answer : Except Fault BufferRecord}
    (h : fill host r data t = (answer, t')) : t.Since (Exchange.Names named) t' := by
  have hcourse := fill_course host r data t
  rw [h] at hcourse
  cases hcourse with
  | unshadowed | blank => exact .refl t
  | @written bytes shadow _ _ _ hwrite =>
    have hnames : t.Since (Exchange.Names named)
        (writeSlots bytes (List.range r.slotCount) { r with shadow } t).2 :=
      writeSlots_names _ _ _ _
    rw [hwrite] at hnames
    exact hnames

omit [Device δ P D] in
lemma isSome_nextLabel (a : BufferAllocator) (usage : BufferUsage) :
    (a.nextLabel usage).isSome = a.labels := by
  rw [nextLabel]
  cases a.labels <;> rfl

/-- A buffer of the host is labelled where labels are wanted. -/
lemma create_names (a : BufferAllocator) (usage : BufferUsage) (size : ℤ) (data : Option Bytes)
    (t : Traced δ P D) (host : HostMemory) :
    t.Since (Exchange.Names fun label => label.isSome = a.labels)
      (a.create usage size data t host).2.2 := by
  have hmade : ∀ {total answer t₁}, Device.createBuffer total (a.nextLabel usage) t = (answer, t₁) →
      t.Since (Exchange.Names fun label => label.isSome = a.labels) t₁ := by
    refine fun hcall => .of_call (.createBuffer ..) hcall fun label h => ?_
    cases h
    exact a.isSome_nextLabel usage
  have hcourse := a.create_course usage size data t host
  generalize a.create usage size data t host = out at hcourse ⊢
  cases hcourse with
  | refused => exact .refl t
  | unallocated _ hcall => exact hmade hcall
  | unfilled _ hcall hfill | unnumbered _ hcall hfill =>
    exact ((hmade hcall).trans (fill_names hfill)).trans (.of_silent (.releaseBuffer _) rfl rfl)
  | created _ hcall hfill => exact (hmade hcall).trans (fill_names hfill)

lemma destroy_names (named : Option String → Prop) (a : BufferAllocator) (handle : BufferHandle)
    (t : Traced δ P D) : t.Since (Exchange.Names named) (a.destroy handle t).2.2 := by
  rw [destroy]
  split
  · exact .refl t
  · exact .of_silent (.releaseBuffer _) rfl rfl

end BufferAllocator

/-! ### The staging ring -/

namespace StagingRing

lemma releaseOutgrown_names (ring settled : StagingRing) (t : Traced δ P D) :
    t.Since (Exchange.Names named) (releaseOutgrown ring settled t) := by
  rw [releaseOutgrown]
  split
  · exact .of_silent (.releaseBuffer _) rfl rfl
  · exact .refl t

/-- The buffer of the ring is labelled, whether labels are wanted or not. -/
lemma ensureBuffer_names {ring ring' : StagingRing} {answer : Except Fault BufferId}
    (h : ring.ensureBuffer t = (answer, ring', t')) :
    t.Since (Exchange.Names (· = some label)) t' := by
  have hmade : ∀ {answer t₁}, Device.createBuffer ring.capacity (some label) t = (answer, t₁) →
      t.Since (Exchange.Names (· = some label)) t₁ := by
    refine fun hcall => .of_call (.createBuffer ..) hcall fun text h => ?_
    cases h
    rfl
  have hcourse := ring.ensureBuffer_course t
  rw [h] at hcourse
  cases hcourse with
  | held => exact .refl t
  | refused _ hcall | made _ hcall => exact hmade hcall

lemma reserve_names {ring ring' : StagingRing} {length : ℕ} {serial : FrameSerial}
    {answer : Except Fault (BufferId × ℕ)}
    (h : ring.reserve length serial t = (answer, ring', t')) :
    t.Since (Exchange.Names (· = some label)) t' := by
  have hcourse := ring.reserve_course length serial t
  rw [h] at hcourse
  cases hcourse with
  | refused _ hensure | reserved _ hensure =>
    exact (releaseOutgrown_names ring _ t).trans (ensureBuffer_names hensure)

/-- Without a buffer the ring asks for one. -/
lemma ensureBuffer_askedFor {ring ring' : StagingRing} {answer : Except Fault BufferId}
    (hring : ring.buffer = none) (h : ring.ensureBuffer t = (answer, ring', t')) :
    t'.AskedFor (some label) := by
  have hcalled : (Device.createBuffer ring.capacity (some label) t).2.AskedFor (some label) :=
    ⟨_, List.mem_append_right _ (List.mem_singleton.mpr rfl), rfl⟩
  have hcourse := ring.ensureBuffer_course t
  rw [h] at hcourse
  cases hcourse with
  | held hbuffer => cases hring.symm.trans hbuffer
  | refused _ hcall | made _ hcall =>
    rw [hcall] at hcalled
    exact hcalled

lemma settle_buffer_none {ring : StagingRing} (hring : ring.buffer = none) (length : ℕ)
    (serial : FrameSerial) : (ring.settle length serial).2.buffer = none := by
  rw [settle]
  dsimp only
  rw [grow]
  split
  · rfl
  · rw [rewind_buffer, hring]

lemma reserve_askedFor {ring ring' : StagingRing} {length : ℕ} {serial : FrameSerial}
    {answer : Except Fault (BufferId × ℕ)} (hring : ring.buffer = none)
    (h : ring.reserve length serial t = (answer, ring', t')) : t'.AskedFor (some label) := by
  have hsettled := settle_buffer_none hring length serial
  have hcourse := ring.reserve_course length serial t
  rw [h] at hcourse
  cases hcourse with
  | refused hsettle hensure | reserved hsettle hensure =>
    rw [hsettle] at hsettled
    exact ensureBuffer_askedFor hsettled hensure

end StagingRing

namespace BufferAllocator

/-- An upload is a reservation, and a write and a copy after it. -/
lemma uploadStaged_reserve (named : Option String → Prop) (ring : StagingRing) (buffer : BufferId)
    (upload : Upload) (serial : FrameSerial) (t : Traced δ P D) :
    ∃ answer ring' t₁, ring.reserve upload.bytes.size serial t = (answer, ring', t₁) ∧
      t₁.Since (Exchange.Names named) (uploadStaged ring buffer upload serial t).2.2 := by
  have hcourse := uploadStaged_course ring buffer upload serial t
  generalize uploadStaged ring buffer upload serial t = out at hcourse ⊢
  cases hcourse with
  | unreserved hreserve => exact ⟨_, _, _, hreserve, .refl _⟩
  | unwritten hreserve hwrite =>
    exact ⟨_, _, _, hreserve, .of_silent (.writeBuffer ..) hwrite rfl⟩
  | uncopied hreserve hwrite hcopy | sent hreserve hwrite hcopy =>
    exact ⟨_, _, _, hreserve, .trans (.of_silent (.writeBuffer ..) hwrite rfl)
      (.of_silent (.copyBuffer ..) hcopy rfl)⟩

lemma uploadStaged_names (ring : StagingRing) (buffer : BufferId) (upload : Upload)
    (serial : FrameSerial) (t : Traced δ P D) :
    t.Since (Exchange.Names (· = some StagingRing.label))
      (uploadStaged ring buffer upload serial t).2.2 := by
  obtain ⟨answer, ring', t₁, hreserve, hlater⟩ :=
    uploadStaged_reserve (· = some StagingRing.label) ring buffer upload serial t
  exact (StagingRing.reserve_names hreserve).trans hlater

lemma uploadStaged_askedFor {ring : StagingRing} (hring : ring.buffer = none) (buffer : BufferId)
    (upload : Upload) (serial : FrameSerial) (t : Traced δ P D) :
    (uploadStaged ring buffer upload serial t).2.2.AskedFor (some StagingRing.label) := by
  obtain ⟨answer, ring', t₁, hreserve, hlater⟩ :=
    uploadStaged_reserve (fun _ => True) ring buffer upload serial t
  exact (StagingRing.reserve_askedFor hring hreserve).since hlater

end BufferAllocator

/-! ### Updates -/

namespace BufferAllocator

variable {a : BufferAllocator} {handle : BufferHandle} {offset length : ℤ} {data : Option Bytes}
  {serial : FrameSerial} {d : δ}

/-- An update that goes through the staging ring: an accepted one of some bytes of a changing
buffer. -/
structure Stages (a : BufferAllocator) (handle : BufferHandle) (offset : ℤ) (data : Option Bytes)
    (length : ℤ) : Prop where
  accepts : a.Accepts handle offset data length
  length_ne : length ≠ 0
  changing : ∀ r, a.records.get? handle = some r → r.usage = .changing

/-- What an update does: nothing, or one write, or an upload through the staging ring. -/
lemma update_snd (a : BufferAllocator) (handle : BufferHandle) (offset : ℤ)
    (data : Option Bytes) (length : ℤ) (serial : FrameSerial) (d : δ) :
    (¬ a.Stages handle offset data length ∧
        (a.update handle offset data length serial d).2 = (a, d)) ∨
      (¬ a.Stages handle offset data length ∧ ∃ records buffer start bytes,
        (a.update handle offset data length serial d).2 =
          ({ a with records }, (Device.writeBuffer buffer start bytes d).2)) ∨
      (a.Stages handle offset data length ∧ ∃ records buffer upload,
        (a.update handle offset data length serial d).2 =
          ({ a with records, ring := (uploadStaged a.ring buffer upload serial d).2.1 },
            (uploadStaged a.ring buffer upload serial d).2.2)) := by
  have hcourse := a.update_course handle offset data length serial d
  generalize a.update handle offset data length serial d = out at hcourse ⊢
  -- Only updates of changing buffers stage something.
  have hother : ∀ {r r' payload upload},
      a.Stage handle offset data length serial (granule d) r r' payload upload →
        r'.usage = .unchanging → ¬ a.Stages handle offset data length := by
    intro r r' payload upload hs husage hstages
    rw [hs.usage_eq] at husage
    cases husage.symm.trans (hstages.changing r hs.asked.live)
  cases hcourse with
  | refused _ hnot => exact .inl ⟨fun h => hnot h.accepts, rfl⟩
  | empty _ hzero => exact .inl ⟨fun h => h.length_ne hzero, rfl⟩
  | unwritten hs husage hwrite | written hs husage hwrite =>
    exact .inr (.inl ⟨hother hs husage, _, _, _, _, by rw [hwrite]⟩)
  | staged hs husage hsend =>
    refine .inr (.inr ⟨⟨hs.accepts, hs.length_ne, fun r hr => ?_⟩, _, _, _, by rw [hsend]⟩)
    rw [← husage, hs.usage_eq, Option.some.inj (hr.symm.trans hs.asked.live)]

/-- An update makes no buffer but that of the ring. -/
lemma update_names (a : BufferAllocator) (handle : BufferHandle) (offset : ℤ)
    (data : Option Bytes) (length : ℤ) (serial : FrameSerial) (t : Traced δ P D) :
    t.Since (Exchange.Names fun label =>
        a.Stages handle offset data length ∧ label = some StagingRing.label)
      (a.update handle offset data length serial t).2.2 := by
  rcases a.update_snd handle offset data length serial t with
    ⟨-, h⟩ | ⟨-, records, buffer, start, bytes, h⟩ | ⟨hstages, records, buffer, upload, h⟩
  · rw [h]
    exact .refl t
  · rw [h]
    exact .of_silent (.writeBuffer ..) rfl rfl
  · rw [h]
    exact (uploadStaged_names a.ring buffer upload serial t).mono fun e he label hlabel =>
      ⟨hstages, he label hlabel⟩

/-- An update that goes through the ring asks for its buffer, where the ring has none. -/
lemma update_askedFor (hstages : a.Stages handle offset data length)
    (hring : a.ring.buffer = none) (serial : FrameSerial) (t : Traced δ P D) :
    (a.update handle offset data length serial t).2.2.AskedFor (some StagingRing.label) := by
  rcases a.update_snd handle offset data length serial t with
    ⟨hother, -⟩ | ⟨hother, -⟩ | ⟨-, records, buffer, upload, h⟩
  · exact absurd hstages hother
  · exact absurd hstages hother
  · rw [h]
    exact uploadStaged_askedFor hring buffer upload serial t

/-- Other updates leave the ring as it is. -/
lemma ring_update (hother : ¬ a.Stages handle offset data length) :
    (a.update handle offset data length serial d).2.1.ring = a.ring := by
  rcases a.update_snd handle offset data length serial d with
    ⟨-, h⟩ | ⟨-, records, buffer, start, bytes, h⟩ | ⟨hstages, -⟩
  · rw [h]
  · rw [h]
  · exact absurd hstages hother

lemma labels_update (a : BufferAllocator) (handle : BufferHandle) (offset : ℤ)
    (data : Option Bytes) (length : ℤ) (serial : FrameSerial) :
    (a.update handle offset data length serial d).2.1.labels = a.labels := by
  rcases a.update_snd handle offset data length serial d with
    ⟨-, h⟩ | ⟨-, records, buffer, start, bytes, h⟩ | ⟨-, records, buffer, upload, h⟩ <;> rw [h]

/-! ### Creating and ending buffers -/

lemma create_kept (a : BufferAllocator) (usage : BufferUsage) (size : ℤ) (data : Option Bytes)
    (host : HostMemory) :
    (a.create usage size data d host).2.1.ring = a.ring ∧
      (a.create usage size data d host).2.1.labels = a.labels := by
  have hcourse := a.create_course usage size data d host
  generalize a.create usage size data d host = out at hcourse ⊢
  cases hcourse <;> exact ⟨rfl, rfl⟩

lemma destroy_kept (a : BufferAllocator) (handle : BufferHandle) :
    (a.destroy handle d).2.1.ring = a.ring ∧ (a.destroy handle d).2.1.labels = a.labels := by
  rw [destroy]
  split <;> exact ⟨rfl, rfl⟩

end BufferAllocator

/-! ### Operations -/

/-- The buffers and the device after the end of a buffer. -/
lemma Context.destroyBuffer_parts (c : Context δ P D) (buffer : BufferHandle) :
    (c.destroyBuffer buffer).2.buffers = (c.buffers.destroy buffer c.device).2.1 ∧
      (c.destroyBuffer buffer).2.device = (c.buffers.destroy buffer c.device).2.2 := by
  rw [destroyBuffer]
  split <;> rename_i hcall <;> rw [hcall] <;> exact ⟨rfl, rfl⟩

namespace Op

/-- The updates of a context that go through the staging ring. -/
inductive Stages (c : Context δ P D) : Op → Prop
  | update {buffer : BufferHandle} {offset length : ℤ} {data : Option Bytes}
      (stages : c.buffers.Stages buffer offset data length) :
      Stages c (.updateBuffer buffer offset data length)

/-- The labels with which operations ask for device buffers. -/
inductive Names (c : Context δ P D) : Op → Option String → Prop
  | created {usage size : ℤ} {data : Option Bytes} {label : Option String}
      (isSome_eq : label.isSome = c.buffers.labels) : Names c (.createBuffer usage size data) label
  | staged {op : Op} (stages : op.Stages c) : Names c op (some StagingRing.label)

/-- An operation asks for device buffers only as it may, with the labels that it may give. -/
theorem names_exchanges (op : Op) (c : Context δ P D) :
    ∀ e ∈ op.exchanges c, e.Names (op.Names c) := by
  -- On the traced device all calls come after the opening of an empty trace.
  have hnamed : ∀ {Q : Option String → Prop} {t : Traced δ P D}, (∀ label, Q label →
      op.Names c label) → (c.traced []).device.Since (Exchange.Names Q) t →
        ∀ e ∈ t.exchanges, e.Names (op.Names c) := by
    rintro Q t hQ ⟨es, hes, hall⟩ e he label hlabel
    rw [hes] at he
    exact hQ label (hall e he label hlabel)
  by_cases hmemory : .memory ∈ op.calls
  · cases op with
    | createBuffer usage size data =>
      rw [exchanges, apply, replyWith_snd, Context.createBuffer]
      split
      · exact List.forall_mem_nil _
      · exact hnamed (fun _ => .created) (c.buffers.create_names _ size data _ _)
    | updateBuffer buffer offset data length =>
      rw [exchanges, apply, replyWith_snd]
      refine hnamed (fun label hlabel => ?_) (c.buffers.update_names buffer offset data length _ _)
      obtain ⟨hstages, rfl⟩ := hlabel
      exact .staged (.update hstages)
    | destroyBuffer buffer =>
      have hdestroy := c.buffers.destroy_names (fun _ => False) buffer (c.traced []).device
      rw [exchanges, apply, replyWith_snd, ((c.traced []).destroyBuffer_parts buffer).2]
      exact hnamed (fun _ => False.elim) hdestroy
    | _ => simp [calls] at hmemory
  · intro e he label hlabel
    exact absurd ((op.linked_exchanges c).2 e he) (by
      rw [Request.kind_of_label hlabel]
      exact hmemory)

/-- An update that goes through the ring asks for its buffer, where the ring has none. -/
theorem Stages.asks {op : Op} {c : Context δ P D} (h : op.Stages c)
    (hring : c.buffers.ring.buffer = none) :
    ∃ e ∈ op.exchanges c, e.request.label? = some (some StagingRing.label) := by
  obtain ⟨hstages⟩ := h
  have hasked := BufferAllocator.update_askedFor hstages hring c.serial (c.traced []).device
  rw [exchanges, apply, replyWith_snd]
  exact hasked

/-- Operations do not change whether labels are wanted, and other operations than these updates
leave the ring as it is. -/
lemma buffers_apply (op : Op) (c : Context δ P D) :
    (op.apply c).2.buffers.labels = c.buffers.labels ∧
      (¬ op.Stages c → (op.apply c).2.buffers.ring = c.buffers.ring) := by
  by_cases hmemory : .memory ∈ op.calls
  · cases op with
    | createBuffer usage size data =>
      rw [apply, replyWith_snd, Context.createBuffer]
      split
      · exact ⟨rfl, fun _ => rfl⟩
      · have hkept := c.buffers.create_kept (d := c.device) ‹BufferUsage› size data c.host
        exact ⟨hkept.2, fun _ => hkept.1⟩
    | updateBuffer buffer offset data length =>
      rw [apply, replyWith_snd]
      exact ⟨c.buffers.labels_update ..,
        fun hother => BufferAllocator.ring_update fun h => hother (.update h)⟩
    | destroyBuffer buffer =>
      have hkept := c.buffers.destroy_kept (d := c.device) buffer
      rw [apply, replyWith_snd, (c.destroyBuffer_parts buffer).1]
      exact ⟨hkept.2, fun _ => hkept.1⟩
    | _ => simp [calls] at hmemory
  · rw [(op.changes_apply c).buffers_eq hmemory]
    exact ⟨rfl, fun _ => rfl⟩

end Op

/-! ### Runs -/

namespace Step

variable {α : Type} [Adjustable δ α]

/-- Some update of a run goes through the staging ring. -/
def Staged (steps : List (Step α)) (c : Context δ P D) : Prop :=
  ∃ before op after, steps = before ++ perform op :: after ∧ op.Stages (run before c)

lemma staged_cons {step : Step α} {steps : List (Step α)} {c : Context δ P D} :
    Staged (step :: steps) c ↔
      (∃ op, step = perform op ∧ op.Stages c) ∨ Staged steps (step.apply c) := by
  constructor
  · rintro ⟨before, op, after, hsteps, hstages⟩
    cases before with
    | nil =>
      obtain ⟨rfl, -⟩ := List.cons.inj hsteps
      exact .inl ⟨op, rfl, hstages⟩
    | cons first before =>
      obtain ⟨rfl, hrest⟩ := List.cons.inj hsteps
      exact .inr ⟨before, op, after, hrest, hstages⟩
  · rintro (⟨op, rfl, hstages⟩ | ⟨before, op, after, rfl, hstages⟩)
    · exact ⟨[], op, steps, rfl, hstages⟩
    · exact ⟨step :: before, op, after, rfl, hstages⟩

lemma labels_apply (step : Step α) (c : Context δ P D) :
    (step.apply c).buffers.labels = c.buffers.labels := by
  cases step with
  | perform op => exact (op.buffers_apply c).1
  | adjust change => rfl
  | setUi _ | setHost _ => rfl

/-- A run asks for buffers with a label where labels are wanted, but for that of the ring, which it
asks for only in these updates. -/
theorem names_trace (steps : List (Step α)) (c : Context δ P D) :
    ∀ e ∈ trace steps c, e.Names fun label =>
      label.isSome = c.buffers.labels ∨ (Staged steps c ∧ label = some StagingRing.label) := by
  induction steps generalizing c with
  | nil => exact List.forall_mem_nil _
  | cons step steps ih =>
    rw [trace_cons]
    refine List.forall_mem_append.mpr ⟨fun e he label hlabel => ?_, fun e he label hlabel => ?_⟩
    · cases step with
      | perform op =>
        cases op.names_exchanges c e he label hlabel with
        | created isSome_eq => exact .inl isSome_eq
        | staged stages => exact .inr ⟨staged_cons.mpr (.inl ⟨op, rfl, stages⟩), rfl⟩
      | adjust change => cases he
      | setUi _ | setHost _ => cases he
    · rcases ih (step.apply c) e he label hlabel with hsome | ⟨hstaged, hlabel⟩
      · exact .inl (hsome.trans (step.labels_apply c))
      · exact .inr ⟨staged_cons.mpr (.inr hstaged), hlabel⟩

/-- The first such update of a run asks for the buffer of the ring, where there was none. -/
theorem asks_of_staged {steps : List (Step α)} {c : Context δ P D} (h : Staged steps c)
    (hring : c.buffers.ring.buffer = none) :
    ∃ e ∈ trace steps c, e.request.label? = some (some StagingRing.label) := by
  induction steps generalizing c with
  | nil =>
    obtain ⟨before, op, after, hsteps, -⟩ := h
    simp at hsteps
  | cons step steps ih =>
    have hlater : Staged steps (step.apply c) → (step.apply c).buffers.ring = c.buffers.ring →
        ∃ e ∈ trace (step :: steps) c, e.request.label? = some (some StagingRing.label) := by
      intro hstaged hsame
      obtain ⟨e, he, hlabel⟩ := ih hstaged (by rw [hsame, hring])
      rw [trace_cons]
      exact ⟨e, List.mem_append_right _ he, hlabel⟩
    rcases staged_cons.mp h with ⟨op, rfl, hstages⟩ | hstaged
    · obtain ⟨e, he, hlabel⟩ := hstages.asks hring
      rw [trace_cons]
      exact ⟨e, List.mem_append_left _ he, hlabel⟩
    · cases step with
      | perform op =>
        by_cases hstages : op.Stages c
        · obtain ⟨e, he, hlabel⟩ := hstages.asks hring
          rw [trace_cons]
          exact ⟨e, List.mem_append_left _ he, hlabel⟩
        · exact hlater hstaged ((op.buffers_apply c).2 hstages)
      | adjust change => exact hlater hstaged rfl
      | setUi _ | setHost _ => exact hlater hstaged rfl

/-- Exactly where no update of a run goes through the staging ring, or labels are wanted, the run
asks for all its buffers as the flag says. -/
theorem names_trace_iff (steps : List (Step α)) (config : Config) (ui : UiThread) (d : δ) :
    (∀ e ∈ trace steps (.ofDevice config ui d : Context δ P D),
        e.Names fun label => label.isSome = config.debugFlags.labels) ↔
      config.debugFlags.labels = true ∨
        ¬ Staged steps (.ofDevice config ui d : Context δ P D) := by
  refine ⟨fun hnames => ?_, fun hquiet e he label hlabel => ?_⟩
  · by_contra hnone
    push Not at hnone
    obtain ⟨hlabels, hstaged⟩ := hnone
    obtain ⟨e, he, hlabel⟩ := asks_of_staged hstaged rfl
    exact hlabels (hnames e he _ hlabel).symm
  · rcases names_trace steps _ e he label hlabel with hsome | ⟨hstaged, rfl⟩
    · exact hsome
    · exact (hquiet.resolve_right fun h => h hstaged).symm

end Step

end RenderBridge
