import RenderBridge.Proofs.Buffer.Allocator
import RenderBridge.Proofs.Buffer.Issue
import RenderBridge.Proofs.Buffer.Update
import RenderBridge.Proofs.Context.Frame
import RenderBridge.Proofs.Trace
import RenderBridge.Proofs.Vertex.Registry
/-!
The handles that a context gives out.

* `Table.Issues`: a table whose keys are numbered as they are issued, and of which some were ended.
* `Step.history`, `Entry.issuedBuffer`, `issuedLayout`, `endedBuffer`: the operations of a run with
  their answers, and the handles in them.
* `Op.Handling`, `Op.handling_apply`: what each operation does with handles, buffers and layouts.
* `Context.Named`, `Context.Named.run`: **every handle is issued once**, in order, and the buffers
  that are there are the ones issued and not destroyed.
* `Context.Refuses`: no operation takes a handle of no buffer.
* `handles_disciplined`: all of that in every run, and a creation that fails leaves no trace.
-/

set_option autoImplicit false

namespace RenderBridge

/-! ### Tables of issued keys -/

namespace Table

variable {κ ν : Type} [DecidableEq κ]

lemma contains_of_some {t : Table κ ν} {k : κ} {v : ν} (h : t.get? k = some v) :
    t.contains k = true := by
  rw [contains, h]
  rfl

lemma contains_of_none {t : Table κ ν} {k : κ} (h : t.get? k = none) : t.contains k = false := by
  rw [contains, h]
  rfl

lemma contains_insert (t : Table κ ν) (k : κ) (v : ν) :
    (t.insert k v).contains = fun j => decide (j = k) || t.contains j := by
  funext j
  rw [contains, get?_insert]
  by_cases hj : j = k <;> simp [hj, contains]

lemma contains_erase (t : Table κ ν) (k : κ) :
    (t.erase k).contains = fun j => decide (j ≠ k) && t.contains j := by
  funext j
  rw [contains, get?_erase]
  by_cases hj : j = k <;> simp [hj, contains]

end Table

/-- The keys ever issued are numbered from one on, `next` is the number of the next one, and the
keys that are there are those issued and not ended. -/
structure Table.Issues {κ ν : Type} [DecidableEq κ] (number : κ → ℕ) (t : Table κ ν) (next : ℕ)
    (issued ended : List κ) : Prop where
  numbers : issued.map number = List.range' 1 issued.length
  next_eq : next = issued.length + 1
  contains_iff : ∀ k, t.contains k = true ↔ k ∈ issued ∧ k ∉ ended
  ended_subset : ended ⊆ issued

namespace Table.Issues

variable {κ ν : Type} [DecidableEq κ] {number : κ → ℕ} {t : Table κ ν} {next : ℕ}
  {issued ended : List κ}

lemma empty (number : κ → ℕ) : Issues number ({} : Table κ ν) 1 [] [] :=
  ⟨rfl, rfl, fun k => by simp [contains, get?], by simp⟩

/-- The next number is none of those issued. -/
lemma not_mem (h : Issues number t next issued ended) {k : κ} (hk : number k = next) :
    k ∉ issued := by
  intro hmem
  have hnumber : number k ∈ List.range' 1 issued.length := by
    rw [← h.numbers]
    exact List.mem_map_of_mem hmem
  have hlt := (List.mem_range'_1.mp hnumber).2
  have hnext := h.next_eq
  omega

/-- A key with the next number is not there. -/
lemma get?_eq_none (h : Issues number t next issued ended) {k : κ} (hk : number k = next) :
    t.get? k = none := by
  rw [← Option.not_isSome_iff_eq_none]
  exact fun hthere => h.not_mem hk ((h.contains_iff k).mp hthere).1

/-- The key with the next number is issued. -/
lemma issue (h : Issues number t next issued ended) {k : κ} (hk : number k = next) (v : ν) :
    Issues number (t.insert k v) (next + 1) (issued ++ [k]) ended where
  numbers := by
    rw [List.map_append, h.numbers, List.map_singleton, hk, h.next_eq, List.length_append,
      List.length_singleton, List.range'_concat, Nat.one_mul, Nat.add_comm]
  next_eq := by rw [h.next_eq, List.length_append, List.length_singleton]
  contains_iff j := by
    have hnew : k ∉ ended := fun hmem => h.not_mem hk (h.ended_subset hmem)
    rw [contains_insert, List.mem_append, List.mem_singleton]
    by_cases hj : j = k
    · subst hj
      simp [hnew]
    · simpa [hj] using h.contains_iff j
  ended_subset := List.Subset.trans h.ended_subset (List.subset_append_left _ _)

/-- The value under a key is replaced. -/
lemma replace (h : Issues number t next issued ended) {k : κ} {v : ν} (hk : t.get? k = some v)
    (w : ν) : Issues number (t.insert k w) next issued ended where
  numbers := h.numbers
  next_eq := h.next_eq
  contains_iff j := by
    rw [← h.contains_iff j, contains_insert]
    by_cases hj : j = k
    · simp [hj, contains_of_some hk]
    · simp [hj]
  ended_subset := h.ended_subset

/-- A key that is there is ended. -/
lemma erase (h : Issues number t next issued ended) {k : κ} {v : ν} (hk : t.get? k = some v) :
    Issues number (t.erase k) next issued (ended ++ [k]) where
  numbers := h.numbers
  next_eq := h.next_eq
  contains_iff j := by
    rw [contains_erase, List.mem_append, List.mem_singleton]
    by_cases hj : j = k
    · simp [hj]
    · simpa [hj] using h.contains_iff j
  ended_subset := by
    have hthere := contains_of_some hk
    refine List.append_subset.mpr ⟨h.ended_subset, ?_⟩
    simpa using ((h.contains_iff k).mp hthere).1

end Table.Issues

/-! ### Histories -/

/-- An operation and its answer. -/
abbrev Entry := Op × Except Fault Reply

namespace Entry

/-- The handle of a new buffer. -/
def issuedBuffer : Entry → Option BufferHandle
  | (_, .ok (.buffer handle)) => some handle
  | _ => none

/-- The handle of a new layout. -/
def issuedLayout : Entry → Option LayoutHandle
  | (_, .ok (.layout handle)) => some handle
  | _ => none

/-- The handle of a buffer that was destroyed. -/
def endedBuffer : Entry → Option BufferHandle
  | (.destroyBuffer handle, .ok _) => some handle
  | _ => none

/-- No handle is issued or ended. -/
structure Quiet (e : Entry) : Prop where
  issuedBuffer : e.issuedBuffer = none
  issuedLayout : e.issuedLayout = none
  endedBuffer : e.endedBuffer = none

/-- A failure issues and ends nothing. -/
lemma quiet_error (op : Op) (fault : Fault) : Quiet (op, .error fault) where
  issuedBuffer := rfl
  issuedLayout := rfl
  endedBuffer := by cases op <;> rfl

/-- The handles of a history with one more operation. -/
lemma filterMap_concat {κ : Type} (f : Entry → Option κ) (h : List Entry) (e : Entry) :
    (h ++ [e]).filterMap f = h.filterMap f ++ (f e).toList := by
  rw [List.filterMap_append]
  cases hf : f e <;> simp [hf]

end Entry

namespace Step

variable {δ α P D : Type} [Device δ P D] [Adjustable δ α]

/-- The operation of a step with its answer, if it is one. -/
def entries (step : Step α) (c : Context δ P D) : List Entry :=
  match step with
  | perform op => [(op, (op.apply c).1)]
  | adjust _ | setUi _ | setHost _ => []

/-- The operations of a run with their answers. -/
def history : List (Step α) → Context δ P D → List Entry
  | [], _ => []
  | step :: steps, c => step.entries c ++ history steps (step.apply c)

end Step

/-! ### What operations do with handles -/

variable {c c' : HostContext FaultyDevice}

/-- What an operation with an answer does with handles, buffers and layouts. -/
inductive Op.Handling (c c' : HostContext FaultyDevice) : Op → Except Fault Reply → Prop
  | created {usage size : ℤ} {data : Option Bytes} {handle : BufferHandle} {r : BufferRecord}
      (number : handle.raw.toNat = c.buffers.nextNumber)
      (made : r.buffer ≤ c'.device.heap.created)
      (buffers : c'.buffers = { c.buffers with
        records := c.buffers.records.insert handle r, nextNumber := c.buffers.nextNumber + 1 })
      (layouts : c'.layouts = c.layouts) :
      Handling c c' (.createBuffer usage size data) (.ok (.buffer handle))
  | updated {handle : BufferHandle} {offset length : ℤ} {data : Option Bytes}
      {answer : Except Fault Reply} {r r' : BufferRecord} {ring : StagingRing}
      (quiet : Entry.Quiet (.updateBuffer handle offset data length, answer))
      (live : c.buffers.records.get? handle = some r) (buffer : r'.buffer = r.buffer)
      (buffers : c'.buffers = { c.buffers with
        records := c.buffers.records.insert handle r', ring := ring })
      (layouts : c'.layouts = c.layouts) :
      Handling c c' (.updateBuffer handle offset data length) answer
  | destroyed {handle : BufferHandle} {r : BufferRecord}
      (live : c.buffers.records.get? handle = some r)
      (buffers : c'.buffers = { c.buffers with records := c.buffers.records.erase handle })
      (layouts : c'.layouts = c.layouts) :
      Handling c c' (.destroyBuffer handle) (.ok .done)
  | registered {stride count : ℤ} {packed : Bytes} {handle : LayoutHandle} {record : LayoutRecord}
      (number : handle.raw.toNat = c.layouts.nextNumber)
      (parsed : VertexLayout.parse stride count packed = .ok record.layout)
      (buffers : c'.buffers = c.buffers)
      (layouts : c'.layouts =
        ⟨c.layouts.records.insert handle record, c.layouts.nextNumber + 1⟩) :
      Handling c c' (.registerLayout stride count packed) (.ok (.layout handle))
  | other {op : Op} {answer : Except Fault Reply} (quiet : Entry.Quiet (op, answer))
      (buffers : c'.buffers = c.buffers) (layouts : c'.layouts = c.layouts) :
      Handling c c' op answer

namespace Op

@[simp]
lemma replyWith_fst {δ P D α : Type} (reply : α → Reply)
    (outcome : Except Fault α × Context δ P D) :
    (replyWith reply outcome).1 = outcome.1.map reply := by
  obtain ⟨answer, c⟩ := outcome
  cases answer <;> rfl

end Op

/-- An update keeps every buffer over its allocation. -/
lemma BufferAllocator.update_replaces {δ P D : Type} [Device δ P D] (a : BufferAllocator)
    (handle : BufferHandle) (offset : ℤ) (data : Option Bytes) (length : ℤ) (serial : FrameSerial)
    (d : δ) :
    (a.update (P := P) (D := D) handle offset data length serial d).2.1 = a ∨
      ∃ r r' ring, a.records.get? handle = some r ∧ r'.buffer = r.buffer ∧
        (a.update (P := P) (D := D) handle offset data length serial d).2.1 =
          { a with records := a.records.insert handle r', ring := ring } := by
  have hcourse := a.update_course handle offset data length serial d
  generalize a.update handle offset data length serial d = out at hcourse ⊢
  cases hcourse with
  | refused | empty => exact .inl rfl
  | unwritten hs | written hs => exact .inr ⟨_, _, a.ring, hs.asked.live, hs.buffer_eq, rfl⟩
  | staged hs => exact .inr ⟨_, _, _, hs.asked.live, hs.buffer_eq, rfl⟩

/-- What registering a layout does. -/
lemma LayoutRegistry.register_cases {δ P D : Type} [Device δ P D] (r : LayoutRegistry)
    (stride count : ℤ) (packed : Bytes) (d : δ) :
    (∃ handle record d', r.register (P := P) (D := D) stride count packed d =
        (.ok handle, ⟨r.records.insert handle record, r.nextNumber + 1⟩, d') ∧
        handle.raw.toNat = r.nextNumber ∧
        VertexLayout.parse stride count packed = .ok record.layout) ∨
      (∃ fault d', r.register (P := P) (D := D) stride count packed d = (.error fault, r, d')) := by
  rw [register]
  cases hparse : VertexLayout.parse stride count packed with
  | error fault => exact .inr ⟨fault, d, rfl⟩
  | ok layout =>
    dsimp only
    split
    · exact .inr ⟨_, _, rfl⟩
    · rename_i native d' _
      rw [issue]
      cases hnth : LayoutHandle.nth? r.nextNumber with
      | some handle =>
        exact .inl ⟨handle, ⟨layout, native⟩, d', rfl, LayoutHandle.toNat_raw_of_nth? hnth, rfl⟩
      | none => exact .inr ⟨_, d', rfl⟩

namespace Op

/-- What each operation does with handles. -/
theorem handling_apply (op : Op) (c : HostContext FaultyDevice) :
    Handling c (op.apply c).2 op (op.apply c).1 := by
  have hchanges := op.changes_apply c
  cases op with
  | createBuffer usage size data =>
    rw [apply, replyWith_fst, replyWith_snd, Context.createBuffer]
    cases BufferUsage.ofToken usage with
    | error fault => exact .other (Entry.quiet_error _ fault) rfl rfl
    | ok use =>
      dsimp only
      rcases c.buffers.create_issues use size data c.device c.host with
        ⟨handle, r, d, hcall, hnumber, hmade, -⟩ | ⟨fault, d, hcall, -⟩
      · rw [hcall]
        exact .created hnumber hmade rfl rfl
      · rw [hcall]
        exact .other (Entry.quiet_error _ fault) rfl rfl
  | updateBuffer handle offset data length =>
    rw [apply, replyWith_fst, replyWith_snd, Context.updateBuffer]
    have hquiet : ∀ answer : Except Fault Unit,
        Entry.Quiet (.updateBuffer handle offset data length, answer.map fun _ => .done) := by
      intro answer
      cases answer <;> exact ⟨rfl, rfl, rfl⟩
    rcases c.buffers.update_replaces handle offset data length c.serial c.device with
      hsame | ⟨r, r', ring, hlive, hbuffer, hnew⟩
    · exact .other (hquiet _) hsame rfl
    · exact .updated (hquiet _) hlive hbuffer hnew rfl
  | destroyBuffer handle =>
    rw [apply, replyWith_fst, replyWith_snd, Context.destroyBuffer, BufferAllocator.destroy]
    rcases c.buffers.find_cases handle with ⟨r, hlive, hfind⟩ | ⟨-, hfind⟩
    · rw [hfind]
      exact .destroyed hlive rfl rfl
    · rw [hfind]
      exact .other (Entry.quiet_error _ _) rfl rfl
  | registerLayout stride count packed =>
    rw [apply, replyWith_fst, replyWith_snd, Context.registerLayout]
    rcases c.layouts.register_cases (P := CompiledPipeline) (D := CompiledDepthStencil) stride count
        packed c.device with
      ⟨handle, record, d, hcall, hnumber, hparsed⟩ | ⟨fault, d, hcall⟩
    · rw [hcall]
      exact .registered hnumber hparsed rfl rfl
    · rw [hcall]
      exact .other (Entry.quiet_error _ fault) rfl rfl
  | _ =>
    refine .other ?_ (hchanges.buffers_eq (by simp [calls])) (hchanges.layouts_eq (by simp [calls]))
    rw [apply, replyWith_fst]
    generalize Prod.fst _ = answer
    cases answer <;> exact ⟨rfl, rfl, rfl⟩

end Op

/-! ### Runs -/

/-- The handles of a history are those that the context knows: buffers and layouts were issued in
order and only the destroyed buffers are gone, every buffer lies over an allocation that was made,
and every layout is what its description says. -/
structure Context.Named (c : HostContext FaultyDevice) (h : List Entry) : Prop where
  buffers : c.buffers.records.Issues (·.raw.toNat) c.buffers.nextNumber
    (h.filterMap Entry.issuedBuffer) (h.filterMap Entry.endedBuffer)
  layouts : c.layouts.records.Issues (·.raw.toNat) c.layouts.nextNumber
    (h.filterMap Entry.issuedLayout) []
  made : ∀ handle r, c.buffers.records.get? handle = some r →
    r.buffer ≤ c.device.heap.created
  parsed : ∀ stride count packed handle,
    (.registerLayout stride count packed, .ok (.layout handle)) ∈ h →
      ∃ record, c.layouts.records.get? handle = some record ∧
        VertexLayout.parse stride count packed = .ok record.layout

namespace Op.Handling

variable {op : Op} {answer : Except Fault Reply} {h : List Entry}

/-- A layout that is registered stays as it is. -/
lemma layouts_extends (heffect : Handling c c' op answer) (hnamed : c.Named h) :
    c.layouts.Extends c'.layouts := by
  cases heffect with
  | registered hnumber _ _ hlayouts =>
    intro handle record hrecord
    rw [hlayouts]
    exact Table.get?_insert_of_free (hnamed.layouts.get?_eq_none hnumber) hrecord
  | created _ _ _ hlayouts | updated _ _ _ _ hlayouts | destroyed _ _ hlayouts
  | other _ _ hlayouts =>
    rw [hlayouts]
    exact .refl c.layouts

/-- The buffers of the history after an operation. -/
lemma buffers_issues (heffect : Handling c c' op answer) (hnamed : c.Named h) :
    c'.buffers.records.Issues (·.raw.toNat) c'.buffers.nextNumber
      ((h ++ [(op, answer)]).filterMap Entry.issuedBuffer)
      ((h ++ [(op, answer)]).filterMap Entry.endedBuffer) := by
  have hbuffers := hnamed.buffers
  rw [Entry.filterMap_concat, Entry.filterMap_concat]
  cases heffect with
  | created hnumber _ hnew _ =>
    rw [hnew]
    simpa [Entry.issuedBuffer, Entry.endedBuffer] using hbuffers.issue hnumber _
  | updated hquiet hlive _ hnew _ =>
    rw [hnew]
    simpa [hquiet.issuedBuffer, hquiet.endedBuffer] using hbuffers.replace hlive _
  | destroyed hlive hnew _ =>
    rw [hnew]
    simpa [Entry.issuedBuffer, Entry.endedBuffer] using hbuffers.erase hlive
  | registered _ _ hsame _ =>
    rw [hsame]
    simpa [Entry.issuedBuffer, Entry.endedBuffer] using hbuffers
  | other hquiet hsame _ =>
    rw [hsame]
    simpa [hquiet.issuedBuffer, hquiet.endedBuffer] using hbuffers

/-- The layouts of the history after an operation. -/
lemma layouts_issues (heffect : Handling c c' op answer) (hnamed : c.Named h) :
    c'.layouts.records.Issues (·.raw.toNat) c'.layouts.nextNumber
      ((h ++ [(op, answer)]).filterMap Entry.issuedLayout) [] := by
  have hlayouts := hnamed.layouts
  rw [Entry.filterMap_concat]
  cases heffect with
  | registered hnumber _ _ hnew =>
    rw [hnew]
    simpa [Entry.issuedLayout] using hlayouts.issue hnumber _
  | created _ _ _ hsame | destroyed _ _ hsame =>
    rw [hsame]
    simpa [Entry.issuedLayout] using hlayouts
  | updated hquiet _ _ _ hsame | other hquiet _ hsame =>
    rw [hsame]
    simpa [hquiet.issuedLayout] using hlayouts

/-- Every buffer still lies over an allocation that was made. -/
lemma made (heffect : Handling c c' op answer) (hnamed : c.Named h)
    (hcreated : c.device.heap.created ≤ c'.device.heap.created) (handle : BufferHandle)
    (r : BufferRecord) (hr : c'.buffers.records.get? handle = some r) :
    r.buffer ≤ c'.device.heap.created := by
  have hold : ∀ handle r, c.buffers.records.get? handle = some r →
      r.buffer ≤ c'.device.heap.created := fun handle r hr =>
    (hnamed.made handle r hr).trans hcreated
  cases heffect with
  | created _ hmade hnew _ =>
    rw [hnew, Table.get?_insert] at hr
    split at hr
    · cases hr
      exact hmade
    · exact hold handle r hr
  | updated _ hlive hbuffer hnew _ =>
    rw [hnew, Table.get?_insert] at hr
    split at hr
    · cases hr
      rw [hbuffer]
      exact hold _ _ hlive
    · exact hold handle r hr
  | destroyed _ hnew _ =>
    rw [hnew, Table.get?_erase] at hr
    split at hr
    · cases hr
    · exact hold handle r hr
  | registered _ _ hsame _ | other _ hsame _ =>
    rw [hsame] at hr
    exact hold handle r hr

/-- Every layout is still what its description says. -/
lemma parsed (heffect : Handling c c' op answer) (hnamed : c.Named h) (stride count : ℤ)
    (packed : Bytes) (handle : LayoutHandle)
    (hmem : (.registerLayout stride count packed, .ok (.layout handle)) ∈ h ++ [(op, answer)]) :
    ∃ record, c'.layouts.records.get? handle = some record ∧
      VertexLayout.parse stride count packed = .ok record.layout := by
  rcases List.mem_append.mp hmem with hold | hnew
  · obtain ⟨record, hrecord, hparse⟩ := hnamed.parsed stride count packed handle hold
    exact ⟨record, heffect.layouts_extends hnamed handle record hrecord, hparse⟩
  · obtain ⟨rfl, rfl⟩ := Prod.mk.inj (List.mem_singleton.mp hnew)
    cases heffect with
    | registered _ hparse _ hlayouts =>
      refine ⟨_, ?_, hparse⟩
      rw [hlayouts, Table.get?_insert, if_pos rfl]
    | other hquiet _ _ => cases hquiet.issuedLayout

end Op.Handling

/-- The number of buffers ever made grows with every operation. -/
lemma Op.created_le (op : Op) (c : HostContext FaultyDevice) :
    c.device.heap.created ≤ (op.apply c).2.device.heap.created :=
  op.apply_keeps (FaultyDevice.keeps_created c.device.heap.created op.calls) c le_rfl

namespace Context.Named

/-- Nothing is issued at the start. -/
lemma ofDevice (config : Config) (ui : UiThread) (d : FaultyDevice) :
    (Context.ofDevice config ui d : HostContext FaultyDevice).Named [] where
  buffers := .empty _
  layouts := .empty _
  made handle r hr := by cases hr
  parsed stride count packed handle hmem := by cases hmem

/-- A step keeps the names, and the layouts that are registered. -/
lemma step {h : List Entry} (hnamed : c.Named h) (step : Step Arming) :
    (step.apply c).Named (h ++ step.entries c) ∧ c.layouts.Extends (step.apply c).layouts := by
  cases step with
  | perform op =>
    have heffect := op.handling_apply c
    exact ⟨⟨heffect.buffers_issues hnamed, heffect.layouts_issues hnamed,
      heffect.made hnamed (op.created_le c), heffect.parsed hnamed⟩,
      heffect.layouts_extends hnamed⟩
  | adjust arming =>
    have hheap : ((Step.adjust arming).apply c).device.heap = c.device.heap :=
      FaultyDevice.adjust_heap arming c.device
    rw [Step.entries, List.append_nil]
    exact ⟨⟨hnamed.buffers, hnamed.layouts, by rw [hheap]; exact hnamed.made, hnamed.parsed⟩,
      .refl c.layouts⟩
  | setUi _ | setHost _ =>
    rw [Step.entries, List.append_nil]
    exact ⟨⟨hnamed.buffers, hnamed.layouts, hnamed.made, hnamed.parsed⟩, .refl c.layouts⟩

/-- A run keeps the names, and the layouts that are registered. -/
theorem run {h : List Entry} (hnamed : c.Named h) (steps : List (Step Arming)) :
    (Step.run steps c).Named (h ++ Step.history steps c) ∧
      c.layouts.Extends (Step.run steps c).layouts := by
  induction steps generalizing c h with
  | nil =>
    rw [Step.history, List.append_nil]
    exact ⟨hnamed, .refl c.layouts⟩
  | cons step steps ih =>
    obtain ⟨hstep, hextends⟩ := hnamed.step step
    obtain ⟨hrun, hextends'⟩ := ih hstep
    rw [Step.run_cons, Step.history, ← List.append_assoc]
    exact ⟨hrun, fun handle record hrecord =>
      hextends' handle record (hextends handle record hrecord)⟩

end Context.Named

/-! ### Handles of no buffer -/

/-- A handle that no operation takes: each is refused as an invalid argument and changes nothing,
and no slot can be read. -/
structure Context.Refuses (c : HostContext FaultyDevice) (handle : BufferHandle) : Prop where
  update : ∀ offset data length, Op.apply (.updateBuffer handle offset data length) c =
    (.error (.invalidArgument
      (if offset < 0 ∨ length < 0 then .negativeUpdate else .unknownBuffer handle.raw)), c)
  destroy : Op.apply (.destroyBuffer handle) c =
    (.error (.invalidArgument (.unknownBuffer handle.raw)), c)
  bindVertex : ∀ layout, Op.apply (.bindVertex handle layout) c =
    (.error (.invalidArgument (.unknownBuffer handle.raw)), c)
  bindIndex : Op.apply (.bindIndex handle) c =
    (.error (.invalidArgument (.unknownBuffer handle.raw)), c)
  read : ∀ slot, c.readSlot handle slot =
    .error (.invalidArgument (.unknownBuffer handle.raw))

/-- A handle under which there is no buffer is refused. -/
lemma Context.refuses_of_gone {handle : BufferHandle}
    (hgone : c.buffers.records.contains handle = false) : c.Refuses handle := by
  have hnone : c.buffers.records.get? handle = none := by
    rw [← Option.not_isSome_iff_eq_none]
    exact Bool.not_eq_true _ ▸ hgone
  have hfind : c.buffers.find handle = .error (.invalidArgument (.unknownBuffer handle.raw)) := by
    rw [BufferAllocator.find, hnone]
  refine ⟨fun offset data length => ?_, ?_, fun layout => ?_, ?_, fun slot => ?_⟩
  · rw [Op.apply, Context.updateBuffer, BufferAllocator.update, BufferAllocator.checkUpdate, hfind]
    by_cases hnegative : offset < 0 ∨ length < 0
    · rw [if_pos hnegative, if_pos hnegative]
      rfl
    · rw [if_neg hnegative, if_neg hnegative]
      rfl
  · rw [Op.apply, Context.destroyBuffer, BufferAllocator.destroy, hfind]
    rfl
  · rw [Op.apply, Context.bindVertex, hfind]
    rfl
  · rw [Op.apply, Context.bindIndex, hfind]
    rfl
  · rw [Context.readSlot, hfind]

/-! ### Creations that fail -/

/-- The operation asks for a buffer or for a layout. -/
def Op.Creates : Op → Bool
  | createBuffer .. | registerLayout .. => true
  | _ => false

/-- A context that differs in its device only, on which every allocation made so far and every slot
of a buffer holds what it held. -/
structure Context.Untouched (c c' : HostContext FaultyDevice) : Prop where
  context : c' = { c with device := c'.device }
  contents : ∀ id ≤ c.device.memory.created,
    c'.device.memory.contents id = c.device.memory.contents id
  slots : ∀ handle slot, c'.readSlot handle slot = c.readSlot handle slot

namespace Context.Untouched

/-- Where the older allocations are kept, so are the slots of all buffers. -/
lemma of_frame (hmade : ∀ handle r, c.buffers.records.get? handle = some r →
    r.buffer ≤ c.device.heap.created) {d : FaultyDevice}
    (hframe : Heap.Frame (fun _ => True) c.device.heap d.heap) :
    c.Untouched { c with device := d } where
  context := rfl
  contents id hid := hframe.contents id hid trivial
  slots handle slot := by
    rw [readSlot, readSlot]
    rcases c.buffers.find_cases handle with ⟨r, hlive, hfind⟩ | ⟨-, hfind⟩
    · have hkept : d.memory.contents r.buffer = c.device.memory.contents r.buffer :=
        hframe.contents r.buffer (hmade handle r hlive) trivial
      have hread : ReadableDevice.readBuffer r.buffer (r.slotOffset slot) r.size d =
          ReadableDevice.readBuffer r.buffer (r.slotOffset slot) r.size c.device := by
        change MemoryDevice.readBuffer _ _ _ d.memory =
          MemoryDevice.readBuffer _ _ _ c.device.memory
        rw [MemoryDevice.readBuffer, MemoryDevice.readBuffer, hkept]
      rw [hfind]
      dsimp only
      rw [hread]
    · rw [hfind]

end Context.Untouched

/-- A creation that fails leaves no trace. -/
theorem Op.untouched_of_creates (op : Op) (hcreates : op.Creates) {h : List Entry}
    (hnamed : c.Named h) {fault : Fault} (hfault : (op.apply c).1 = .error fault) :
    c.Untouched (op.apply c).2 := by
  cases op with
  | createBuffer usage size data =>
    rw [apply, replyWith_fst, Context.createBuffer] at hfault
    rw [apply, replyWith_snd, Context.createBuffer]
    cases htoken : BufferUsage.ofToken usage with
    | error fault => exact .of_frame hnamed.made (.refl _ _)
    | ok use =>
      rw [htoken] at hfault
      dsimp only at hfault ⊢
      rcases c.buffers.create_issues use size data c.device c.host with
        ⟨handle, r, d, hcall, -⟩ | ⟨fault, d, hcall, hframe⟩
      · rw [hcall] at hfault
        cases hfault
      · rw [hcall]
        exact .of_frame hnamed.made hframe
  | registerLayout stride count packed =>
    have hheap : (Op.apply (.registerLayout stride count packed) c).2.device.heap =
        c.device.heap :=
      Op.apply_keeps _ (FaultyDevice.keeps_heap c.device.heap (by simp [calls])) c rfl
    rw [apply, replyWith_fst, Context.registerLayout] at hfault
    rw [apply, replyWith_snd, Context.registerLayout] at hheap ⊢
    rcases c.layouts.register_cases (P := CompiledPipeline) (D := CompiledDepthStencil) stride count
        packed c.device with
      ⟨handle, record, d, hcall, -⟩ | ⟨fault, d, hcall⟩
    · rw [hcall] at hfault
      cases hfault
    · rw [hcall] at hheap ⊢
      refine .of_frame hnamed.made ?_
      rw [hheap]
      exact .refl _ _
  | _ => cases hcreates

/-- **Handles are issued in order and once, and a creation that fails leaves no trace.** In every
run on a device in host memory, whatever fails on it, whatever granule it copies in, and whenever
host memory runs out for shadows: the `n`-th buffer that is created has the handle `n`, and the
`n`-th layout that is registered too; the buffers that are there are those created and not
destroyed, and every other handle is refused by updates, destructions, bindings and reads; a
registered layout is for good what its description says. A creation that fails, for whatever reason,
leaves buffers, layouts, bindings, staging ring and the numbers of the next handles, and what every
allocation and every slot holds. -/
theorem handles_disciplined (config : Config) (ui : UiThread) (d : FaultyDevice)
    (steps : List (Step Arming)) :
    let c₀ : HostContext FaultyDevice := .ofDevice config ui d
    let c := Step.run steps c₀
    let created := (Step.history steps c₀).filterMap Entry.issuedBuffer
    let destroyed := (Step.history steps c₀).filterMap Entry.endedBuffer
    let registered := (Step.history steps c₀).filterMap Entry.issuedLayout
    created.map (·.raw.toNat) = List.range' 1 created.length ∧
    registered.map (·.raw.toNat) = List.range' 1 registered.length ∧
    (∀ handle, c.buffers.records.contains handle = true ↔
      handle ∈ created ∧ handle ∉ destroyed) ∧
    (∀ handle, handle ∉ created ∨ handle ∈ destroyed → c.Refuses handle) ∧
    (∀ handle, c.layouts.records.contains handle = true ↔ handle ∈ registered) ∧
    (∀ stride count packed handle,
      (.registerLayout stride count packed, .ok (.layout handle)) ∈ Step.history steps c₀ →
        ∃ record, c.layouts.records.get? handle = some record ∧
          VertexLayout.parse stride count packed = .ok record.layout) ∧
    (∀ later : List (Step Arming), c.layouts.Extends (Step.run later c).layouts) ∧
    ∀ op : Op, op.Creates → ∀ fault, (op.apply c).1 = .error fault →
      c.Untouched (op.apply c).2 := by
  intro c₀ c created destroyed registered
  have hnamed : c.Named (Step.history steps c₀) :=
    (Context.Named.run (Context.Named.ofDevice config ui d) steps).1
  have hlive := hnamed.buffers.contains_iff
  refine ⟨hnamed.buffers.numbers, hnamed.layouts.numbers, hlive, fun handle hgone => ?_,
    fun handle => ?_, hnamed.parsed, fun later => (hnamed.run later).2,
    fun op hcreates fault hfault => op.untouched_of_creates hcreates hnamed hfault⟩
  · refine Context.refuses_of_gone (Bool.eq_false_iff.mpr fun hthere => ?_)
    obtain ⟨hcreated, hkept⟩ := (hlive handle).mp hthere
    rcases hgone with hnever | hdestroyed
    · exact hnever hcreated
    · exact hkept hdestroyed
  · simpa only [List.not_mem_nil, not_false_eq_true, and_true] using
      hnamed.layouts.contains_iff handle

/-- A run that makes two buffers and destroys the first. -/
def replacedRun : List (Step Arming) := [.perform (.createBuffer 0 4 none),
  .perform (.destroyBuffer .first), .perform (.createBuffer 0 4 none)]

/-- On a device that copies in granules of three, the second buffer has a handle of its own and the
first handle is refused. A third one fails when its seven bytes are to be written, for they are no
whole granules, and leaves no trace. Neither does one for which there is no shadow: the device makes
it, and gets it back. -/
theorem handles_disciplined_replacedRun :
    let c₀ : HostContext FaultyDevice := .ofDevice {} .stopped (.ofAlignment 3)
    let c := Step.run replacedRun c₀
    let starved := Step.run (replacedRun ++ [.setHost .exhausted]) c₀
    let filled : Op := .createBuffer 0 7 (some #[1, 2, 3, 4, 5, 6, 7])
    let blank : Op := .createBuffer 0 7 none
    ((Step.history replacedRun c₀).filterMap Entry.issuedBuffer).map (·.raw) = [1, 2] ∧
      c.Refuses .first ∧
      ((filled.exchanges c).map (·.accepted)) = [true, false, true] ∧
      (filled.apply c).1 = .error (.ofDevice (.invalidArgument (.misaligned 0 8 3))) ∧
      c.Untouched (filled.apply c).2 ∧
      ((blank.exchanges starved).map (·.accepted)) = [true, true] ∧
      (blank.apply starved).1 = .error (.openingFailed (.hostShadowExhausted 8)) ∧
      starved.Untouched (blank.apply starved).2 := by
  intro c₀ c starved filled blank
  have hfault : (filled.apply c).1 =
      .error (.ofDevice (.invalidArgument (.misaligned 0 8 3))) := by decide +kernel
  have hstarved : (blank.apply starved).1 = .error (.openingFailed (.hostShadowExhausted 8)) := by
    decide +kernel
  obtain ⟨-, -, -, hrefused, -, -, -, huntouched⟩ :=
    handles_disciplined {} .stopped (.ofAlignment 3) replacedRun
  obtain ⟨-, -, -, -, -, -, -, huntouched'⟩ :=
    handles_disciplined {} .stopped (.ofAlignment 3) (replacedRun ++ [.setHost .exhausted])
  exact ⟨by decide +kernel, hrefused _ (.inr (by decide +kernel)), by decide +kernel, hfault,
    huntouched filled rfl _ hfault, by decide +kernel, hstarved, huntouched' blank rfl _ hstarved⟩

end RenderBridge
