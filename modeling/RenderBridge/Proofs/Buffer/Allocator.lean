import RenderBridge.Proofs.Buffer.Update
import RenderBridge.Proofs.Context.Frame
/-!
What runs keep about the buffers of a context, whatever fails on the way.

* `BufferAllocator.Laid.create`, `Laid.update`, `Laid.destroy`: each operation on buffers keeps
  their layout.
* `Op.BufferEffect`, `Op.bufferEffect`: what each operation makes of the buffers.
* `Context.Descends`: a later buffer over an allocation that was there already is the buffer that
  was there.
* `Step.apply_laid`, `run_laid`: **every step keeps the layout**, and so does every run.
-/

set_option autoImplicit false

namespace RenderBridge

/-- The handle that is issued first. -/
def BufferHandle.first : BufferHandle := ⟨1, by decide⟩

namespace BufferAllocator

/-! ### Ending buffers -/

/-- What ending a buffer does. -/
lemma destroy_cases (a : BufferAllocator) (handle : BufferHandle) (t : HostDevice) :
    (∃ fault, a.destroy handle t = (.error fault, a, t) ∧ a.records.get? handle = none) ∨
      (∃ r t', a.records.get? handle = some r ∧
        a.destroy handle t = (.ok (), { a with records := a.records.erase handle }, t') ∧
        t'.heap = t.heap.release r.buffer ∧ t.Calls (.releaseBuffer r.buffer) true t') := by
  rw [destroy]
  rcases a.find_cases handle with ⟨r, hlive, hfind⟩ | ⟨hgone, hfind⟩
  · rw [hfind]
    exact .inr ⟨r, _, hlive, rfl, (t.releaseBuffer_eq r.buffer).1, t.releaseBuffer_calls r.buffer⟩
  · rw [hfind]
    exact .inl ⟨_, rfl, hgone⟩

/-! ### Layout -/

namespace Laid

variable {h h' : Heap} {a : BufferAllocator}

/-- Without buffers there is nothing to lay out. -/
lemma ofConfig (hpow : ∃ k < 64, h.granule = 2 ^ k) (capacity : ℕ) (labels : Bool) :
    (ofConfig capacity labels).Laid h where
  granule_pow := hpow
  record handle r hr := by cases hr
  distinct handle handle' r r' hr := by cases hr
  ring := StagingRing.ofCapacity_laid capacity
  apart staging hstaging := by cases hstaging

/-- Buffers stay laid out where theirs are kept. -/
lemma frame_of_kept {kept : BufferId → Prop} (ha : a.Laid h) (hf : Heap.Frame kept h h')
    (hrecords : ∀ handle r, a.records.get? handle = some r → kept r.buffer)
    (hring : ∀ staging, a.ring.buffer = some staging → kept staging) : a.Laid h' where
  granule_pow := by
    rw [hf.granule]
    exact ha.granule_pow
  record handle r hr := (ha.record handle r hr).frame hf (hrecords handle r hr)
  distinct := ha.distinct
  ring := ha.ring.frame hf hring
  apart := ha.apart

lemma frame (ha : a.Laid h) (hf : Heap.Frame (fun _ => True) h h') : a.Laid h' :=
  ha.frame_of_kept hf (fun _ _ _ => trivial) fun _ _ => trivial

/-- A buffer over a new allocation is taken in. -/
lemma create (ha : a.Laid h) (hf : Heap.Frame (fun _ => True) h h') {r : BufferRecord}
    (hfresh : r.buffer = h.created + 1) (hr : r.Laid h') (handle : BufferHandle) (n : ℕ) :
    Laid h' { a with records := a.records.insert handle r, nextNumber := n } := by
  -- The new allocation is younger than all that was there.
  have hyoung : ∀ handle' r', a.records.get? handle' = some r' → r'.buffer ≠ r.buffer := by
    intro handle' r' hr' heq
    have hmade := (ha.record handle' r' hr').made
    rw [heq, hfresh] at hmade
    exact absurd hmade (Nat.not_succ_le_self _)
  have hcases : ∀ handle' r', (a.records.insert handle r).get? handle' = some r' →
      (handle' = handle ∧ r' = r) ∨ a.records.get? handle' = some r' := by
    intro handle' r' hr'
    rw [Table.get?_insert] at hr'
    split at hr'
    · rename_i heq
      exact .inl ⟨heq, (Option.some.inj hr').symm⟩
    · exact .inr hr'
  have hlaid := ha.frame hf
  refine ⟨hlaid.granule_pow, ?_, ?_, hlaid.ring, ?_⟩
  · intro handle' r' hr'
    rcases hcases handle' r' hr' with ⟨rfl, rfl⟩ | hold
    · exact hr
    · exact hlaid.record handle' r' hold
  · intro handle₁ handle₂ r₁ r₂ h₁ h₂ heq
    rcases hcases handle₁ r₁ h₁ with ⟨rfl, rfl⟩ | hold₁
    · rcases hcases handle₂ r₂ h₂ with ⟨rfl, rfl⟩ | hold₂
      · rfl
      · exact absurd heq.symm (hyoung handle₂ r₂ hold₂)
    · rcases hcases handle₂ r₂ h₂ with ⟨rfl, rfl⟩ | hold₂
      · exact absurd heq (hyoung handle₁ r₁ hold₁)
      · exact ha.distinct handle₁ handle₂ r₁ r₂ hold₁ hold₂ heq
  · intro staging hstaging handle' r' hr' heq
    rcases hcases handle' r' hr' with ⟨rfl, rfl⟩ | hold
    · have hmade := (ha.ring.made staging hstaging).1
      rw [← heq, hfresh] at hmade
      exact absurd hmade (Nat.not_succ_le_self _)
    · exact ha.apart staging hstaging handle' r' hold heq

/-- A buffer takes the place of one over the same allocation, and the ring may get a new buffer. -/
lemma update (ha : a.Laid h) {handle : BufferHandle} {r r' : BufferRecord}
    (hlive : a.records.get? handle = some r) (hbuffer : r'.buffer = r.buffer) (hr' : r'.Laid h')
    {ring : StagingRing} (hring : ring.Laid h')
    (hwhich : ∀ staging, ring.buffer = some staging →
      a.ring.buffer = some staging ∨ h.created < staging)
    (hf : Heap.Frame (fun id => id ≠ r.buffer ∧ a.ring.buffer ≠ some id) h h') :
    Laid h' { a with records := a.records.insert handle r', ring := ring } := by
  have hcases : ∀ handle₁ r₁, (a.records.insert handle r').get? handle₁ = some r₁ →
      (handle₁ = handle ∧ r₁ = r') ∨ (handle₁ ≠ handle ∧ a.records.get? handle₁ = some r₁) := by
    intro handle₁ r₁ h₁
    rw [Table.get?_insert] at h₁
    split at h₁
    · rename_i heq
      exact .inl ⟨heq, (Option.some.inj h₁).symm⟩
    · rename_i hne
      exact .inr ⟨hne, h₁⟩
  -- Every buffer that is there lies over an allocation that was there, under the same handle.
  have hold : ∀ handle₁ r₁, (a.records.insert handle r').get? handle₁ = some r₁ →
      ∃ r₀, a.records.get? handle₁ = some r₀ ∧ r₀.buffer = r₁.buffer := by
    intro handle₁ r₁ h₁
    rcases hcases handle₁ r₁ h₁ with ⟨rfl, rfl⟩ | ⟨-, h⟩
    · exact ⟨r, hlive, hbuffer.symm⟩
    · exact ⟨r₁, h, rfl⟩
  refine ⟨?_, ?_, ?_, hring, ?_⟩
  · rw [hf.granule]
    exact ha.granule_pow
  · intro handle₁ r₁ h₁
    rcases hcases handle₁ r₁ h₁ with ⟨rfl, rfl⟩ | ⟨hne, h⟩
    · exact hr'
    · refine (ha.record handle₁ r₁ h).frame hf ⟨?_, ?_⟩
      · exact fun heq => hne (ha.distinct handle₁ handle r₁ r h hlive heq)
      · exact fun hring => ha.apart r₁.buffer hring handle₁ r₁ h rfl
  · intro handle₁ handle₂ r₁ r₂ h₁ h₂ heq
    obtain ⟨r₃, h₃, hr₃⟩ := hold handle₁ r₁ h₁
    obtain ⟨r₄, h₄, hr₄⟩ := hold handle₂ r₂ h₂
    exact ha.distinct handle₁ handle₂ r₃ r₄ h₃ h₄ (by rw [hr₃, heq, hr₄])
  · intro staging hstaging handle₁ r₁ h₁ heq
    obtain ⟨r₀, h₀, hr₀⟩ := hold handle₁ r₁ h₁
    rcases hwhich staging hstaging with hsame | hnew
    · exact ha.apart staging hsame handle₁ r₀ h₀ (hr₀.trans heq)
    · have hmade := (ha.record handle₁ r₀ h₀).made
      rw [hr₀, heq] at hmade
      exact absurd hmade (Nat.not_le_of_lt hnew)

lemma get?_of_erase {handle handle' : BufferHandle} {r : BufferRecord}
    (h : (a.records.erase handle).get? handle' = some r) :
    handle' ≠ handle ∧ a.records.get? handle' = some r := by
  rw [Table.get?_erase] at h
  split at h
  · cases h
  · rename_i hne
    exact ⟨hne, h⟩

/-- Without one of them the others are laid out as before. -/
lemma erase (ha : a.Laid h) (handle : BufferHandle) :
    Laid h { a with records := a.records.erase handle } where
  granule_pow := ha.granule_pow
  record handle' r hr := ha.record handle' r (get?_of_erase hr).2
  distinct handle₁ handle₂ r₁ r₂ h₁ h₂ :=
    ha.distinct handle₁ handle₂ r₁ r₂ (get?_of_erase h₁).2 (get?_of_erase h₂).2
  ring := ha.ring
  apart staging hstaging handle' r hr := ha.apart staging hstaging handle' r (get?_of_erase hr).2

lemma destroy (ha : a.Laid h) {handle : BufferHandle} {r : BufferRecord}
    (hlive : a.records.get? handle = some r) :
    Laid (h.release r.buffer) { a with records := a.records.erase handle } := by
  refine (ha.erase handle).frame_of_kept (h.frame_release r.buffer) ?_ ?_
  · intro handle' r' hr' heq
    obtain ⟨hne, hr'⟩ := get?_of_erase hr'
    exact hne (ha.distinct handle' handle r' r hr' hlive heq)
  · exact fun staging hstaging heq => ha.apart staging hstaging handle r hlive heq.symm

end Laid

end BufferAllocator

/-! ### Operations -/

variable {c c' : HostContext HostDevice}

/-- What an operation with an answer makes of the buffers. -/
inductive Op.BufferEffect (c : HostContext HostDevice) :
    Op → Except Fault Reply → HostContext HostDevice → Prop
  | other {op : Op} {answer : Except Fault Reply} {c' : HostContext HostDevice}
      (calls : .memory ∉ op.calls) (buffers : c'.buffers = c.buffers)
      (heap : c'.device.heap = c.device.heap) : BufferEffect c op answer c'
  | uncreated {usage size : ℤ} {data : Option Bytes} {fault : Fault} {t : HostDevice}
      (frame : Heap.Frame (fun _ => True) c.device.heap t.heap)
      (since : c.device.Since HostExchange.Excused t) :
      BufferEffect c (.createBuffer usage size data) (.error fault) { c with device := t }
  | created {token size : ℤ} {data : Option Bytes} {usage : BufferUsage} {handle : BufferHandle}
      {r : BufferRecord} {t : HostDevice} (usage_eq : BufferUsage.ofToken token = .ok usage)
      (record : BufferAllocator.Created c.device.heap t.heap usage size data r)
      (frame : Heap.Frame (fun _ => True) c.device.heap t.heap)
      (since : c.device.Since HostExchange.Excused t) :
      BufferEffect c (.createBuffer token size data) (.ok (.buffer handle))
        { c with
          buffers := { c.buffers with
            records := c.buffers.records.insert handle r
            nextNumber := c.buffers.nextNumber + 1 }
          device := t }
  | refused {handle : BufferHandle} {offset length : ℤ} {data : Option Bytes} {fault : Fault}
      (not_accepted : ¬ c.buffers.Accepts handle offset data length) :
      BufferEffect c (.updateBuffer handle offset data length) (.error fault) c
  | empty {handle : BufferHandle} {offset : ℤ} {data : Option Bytes}
      (accepted : c.buffers.Accepts handle offset data 0) :
      BufferEffect c (.updateBuffer handle offset data 0) (.ok .done) c
  | updated {handle : BufferHandle} {offset length : ℤ} {data : Option Bytes}
      {r r' : BufferRecord} {payload : Bytes} {ring : StagingRing} {t : HostDevice}
      {answer : Except Fault Unit} (length_ne : length ≠ 0)
      (accepted : c.buffers.Accepts handle offset data length)
      (asked : c.buffers.Asked handle offset data length r payload)
      (update : BufferAllocator.Updated c.device t c.buffers.ring ring r r' c.serial offset.toNat
        payload answer) :
      BufferEffect c (.updateBuffer handle offset data length)
        (answer.map fun _ => Reply.done)
        { c with
          buffers := { c.buffers with
            records := c.buffers.records.insert handle r', ring := ring }
          device := t }
  | unknown {handle : BufferHandle} {fault : Fault}
      (gone : c.buffers.records.get? handle = none) :
      BufferEffect c (.destroyBuffer handle) (.error fault) c
  | destroyed {handle : BufferHandle} {r : BufferRecord} {t : HostDevice}
      (live : c.buffers.records.get? handle = some r)
      (heap : t.heap = c.device.heap.release r.buffer)
      (call : c.device.Calls (.releaseBuffer r.buffer) true t) :
      BufferEffect c (.destroyBuffer handle) (.ok .done)
        { c with
          buffers := { c.buffers with records := c.buffers.records.erase handle }
          device := t
          bindings := c.bindings.without handle }

namespace Op

lemma createBuffer_effect (hpow : ∃ k < 64, c.device.heap.granule = 2 ^ k) (usage size : ℤ)
    (data : Option Bytes) :
    BufferEffect c (.createBuffer usage size data) (apply (.createBuffer usage size data) c).1
      (apply (.createBuffer usage size data) c).2 := by
  rw [apply, Context.createBuffer]
  cases htoken : BufferUsage.ofToken usage with
  | error fault => exact .uncreated (.refl _ _) (.refl _)
  | ok use =>
    rcases BufferAllocator.create_cases hpow c.buffers use size data c.host with
      ⟨handle, r, t, hcall, hcreated, hframe, hsince⟩ | ⟨fault, t, hcall, hframe, hsince⟩
    · dsimp only
      rw [hcall]
      exact .created htoken hcreated hframe hsince
    · dsimp only
      rw [hcall]
      exact .uncreated hframe hsince

lemma updateBuffer_effect (ha : c.buffers.Laid c.device.heap) (handle : BufferHandle)
    (offset : ℤ) (data : Option Bytes) (length : ℤ) :
    BufferEffect c (.updateBuffer handle offset data length)
      (apply (.updateBuffer handle offset data length) c).1
      (apply (.updateBuffer handle offset data length) c).2 := by
  rw [apply, Context.updateBuffer]
  rcases BufferAllocator.update_cases ha handle offset data length c.serial with
    ⟨fault, hcall, hnot⟩ | ⟨hcall, rfl, haccepts⟩ |
      ⟨r, r', payload, ring, t, answer, hlength, haccepts, hasked, hcall, hupdated⟩
  · rw [hcall]
    exact .refused hnot
  · rw [hcall]
    exact .empty haccepts
  · have heffect := BufferEffect.updated hlength haccepts hasked hupdated
    rw [hcall]
    cases answer with
    | ok _ => exact heffect
    | error fault => exact heffect

lemma destroyBuffer_effect (c : HostContext HostDevice) (handle : BufferHandle) :
    BufferEffect c (.destroyBuffer handle) (apply (.destroyBuffer handle) c).1
      (apply (.destroyBuffer handle) c).2 := by
  rw [apply, Context.destroyBuffer]
  rcases c.buffers.destroy_cases handle c.device with
    ⟨fault, hcall, hgone⟩ | ⟨r, t, hlive, hcall, hheap, hcalls⟩
  · rw [hcall]
    exact .unknown hgone
  · rw [hcall]
    exact .destroyed hlive hheap hcalls

/-- What an operation makes of the buffers. -/
theorem bufferEffect (op : Op) (ha : c.buffers.Laid c.device.heap) :
    BufferEffect c op (op.apply c).1 (op.apply c).2 := by
  by_cases hcalls : .memory ∈ op.calls
  · cases op with
    | createBuffer usage size data => exact createBuffer_effect ha.granule_pow usage size data
    | updateBuffer handle offset data length =>
      exact updateBuffer_effect ha handle offset data length
    | destroyBuffer handle => exact destroyBuffer_effect c handle
    | _ => simp [calls] at hcalls
  · refine .other hcalls ((op.changes_apply c).buffers_eq hcalls) ?_
    exact op.apply_keeps (Traced.keeps (FaultyDevice.keeps_heap c.device.heap hcalls)) c rfl

namespace BufferEffect

variable {op : Op} {answer : Except Fault Reply}

/-- Every operation keeps the layout of the buffers. -/
lemma laid (h : BufferEffect c op answer c') (ha : c.buffers.Laid c.device.heap) :
    c'.buffers.Laid c'.device.heap := by
  cases h with
  | other _ hbuffers hheap =>
    rw [hbuffers, hheap]
    exact ha
  | uncreated hframe _ => exact ha.frame hframe
  | created _ hcreated hframe _ => exact ha.create hframe hcreated.fresh hcreated.laid _ _
  | refused _ => exact ha
  | empty _ => exact ha
  | updated _ _ hasked hupdated =>
    exact ha.update hasked.live (by rw [hupdated.record]) hupdated.laid hupdated.ring_laid
      hupdated.ring_buffer hupdated.frame
  | unknown _ => exact ha
  | destroyed hlive hheap _ =>
    rw [hheap]
    exact ha.destroy hlive

end BufferEffect

end Op

/-! ### Descent -/

/-- Later buffers descend from earlier ones: a buffer over an allocation that was there before is
the one that was there, but for its shadow. -/
structure Context.Descends (c c' : HostContext HostDevice) : Prop where
  created : c.device.heap.created ≤ c'.device.heap.created
  record : ∀ handle r', c'.buffers.records.get? handle = some r' →
    r'.buffer ≤ c.device.heap.created →
      ∃ r, c.buffers.records.get? handle = some r ∧ r' = { r with shadow := r'.shadow }

namespace Context.Descends

lemma of_eq (hbuffers : c'.buffers.records = c.buffers.records)
    (hcreated : c.device.heap.created ≤ c'.device.heap.created) : Descends c c' := by
  refine ⟨hcreated, fun handle r' hr' _ => ⟨r', ?_, rfl⟩⟩
  rw [← hbuffers]
  exact hr'

lemma refl (c : HostContext HostDevice) : Descends c c := of_eq rfl le_rfl

lemma trans {c'' : HostContext HostDevice} (h : Descends c c') (h' : Descends c' c'') :
    Descends c c'' := by
  refine ⟨h.created.trans h'.created, fun handle r'' hr'' hmade => ?_⟩
  obtain ⟨r', hr', heq'⟩ := h'.record handle r'' hr'' (hmade.trans h.created)
  have hbuffer : r'.buffer = r''.buffer := by rw [heq']
  obtain ⟨r, hr, heq⟩ := h.record handle r' hr' (by rw [hbuffer]; exact hmade)
  exact ⟨r, hr, by rw [heq', heq]⟩

end Context.Descends

lemma Op.BufferEffect.descends {op : Op} {answer : Except Fault Reply}
    (h : BufferEffect c op answer c') : Context.Descends c c' := by
  cases h with
  | other _ hbuffers hheap => exact .of_eq (by rw [hbuffers]) (by rw [hheap])
  | uncreated hframe _ => exact .of_eq rfl hframe.created
  | created _ hcreated hframe _ =>
    refine ⟨hframe.created, fun handle r' hr' hmade => ?_⟩
    rw [Table.get?_insert] at hr'
    split at hr'
    · cases hr'
      rw [hcreated.fresh] at hmade
      exact absurd hmade (Nat.not_succ_le_self _)
    · exact ⟨r', hr', rfl⟩
  | refused _ => exact .refl c
  | empty _ => exact .refl c
  | updated _ _ hasked hupdated =>
    refine ⟨hupdated.frame.created, fun handle r' hr' _ => ?_⟩
    rw [Table.get?_insert] at hr'
    split at hr'
    · rename_i heq
      cases hr'
      exact ⟨_, by rw [heq]; exact hasked.live, hupdated.record⟩
    · exact ⟨r', hr', rfl⟩
  | unknown _ => exact .refl c
  | destroyed _ hheap _ =>
    refine ⟨by rw [hheap]; exact le_rfl, fun handle r' hr' _ => ?_⟩
    rw [Table.get?_erase] at hr'
    split at hr'
    · cases hr'
    · exact ⟨r', hr', rfl⟩

/-! ### Steps and runs -/

lemma HostDevice.adjust_heap (arming : Arming) (t : HostDevice) :
    (Adjustable.adjust arming t).heap = t.heap := FaultyDevice.adjust_heap arming t.device

namespace Step

/-- Every step keeps the layout of the buffers, and later buffers descend from earlier ones. -/
theorem apply_laid (step : Step Arming) (ha : c.buffers.Laid c.device.heap) :
    (step.apply c).buffers.Laid (step.apply c).device.heap ∧
      Context.Descends c (step.apply c) := by
  cases step with
  | perform op =>
    have heffect := op.bufferEffect ha
    exact ⟨heffect.laid ha, heffect.descends⟩
  | adjust arming =>
    have hheap := HostDevice.adjust_heap arming c.device
    refine ⟨?_, .of_eq rfl (by rw [apply, hheap])⟩
    rw [apply, hheap]
    exact ha
  | setUi _ | setHost _ => exact ⟨ha, .of_eq rfl le_rfl⟩

theorem run_laid (steps : List (Step Arming)) (ha : c.buffers.Laid c.device.heap) :
    (run steps c).buffers.Laid (run steps c).device.heap ∧ Context.Descends c (run steps c) := by
  refine run_induction (I := fun c' => c'.buffers.Laid c'.device.heap ∧ Context.Descends c c')
    ?_ steps ⟨ha, .refl c⟩
  rintro step c' ⟨hlaid, hdescends⟩
  obtain ⟨hlaid', hdescends'⟩ := step.apply_laid hlaid
  exact ⟨hlaid', hdescends.trans hdescends'⟩

end Step

end RenderBridge
