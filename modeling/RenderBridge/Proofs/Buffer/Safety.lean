import RenderBridge.Proofs.Buffer.Allocator
import RenderBridge.Proofs.Buffer.Checked
/-!
Runs of calls on logical buffers, over a device of any alignment that may fail at any call.

* `BufferCall.perform?`: a call with every step of arithmetic checked, and every index.
* `BufferRun.Sound`, `BufferRun.Sound.perform`, `BufferRun.Sound.performAll`: bounded records over
  allocations of their length, kept by one call, and so by any number of them.
* `buffer_calls_checked`: **no step of a call fails** after any calls, the slots hold what was asked
  for, and draws read inside allocations.
* `last_number_overflows`: the numbers of buffers end one short of `2 ^ 64`.
-/

set_option autoImplicit false

namespace RenderBridge

/-! ### Calls as data -/

/-- A call on the buffers of a host. -/
inductive BufferCall
  | create (usage : BufferUsage) (size : ℤ) (data : Option Bytes) (host : HostMemory := .ample)
  | update (handle : BufferHandle) (offset : ℤ) (data : Option Bytes) (length : ℤ)
      (serial : FrameSerial)
  | destroy (handle : BufferHandle)
  | binding (handle : BufferHandle) (serial : FrameSerial)

/-- What a call answers. -/
inductive BufferAnswer
  | created (answer : Except Fault BufferHandle)
  | done (answer : Except Fault Unit)
  | bound (answer : Except Fault BufferBinding)

/-- The number of buffers that a call made. -/
def BufferAnswer.issued : BufferAnswer → ℕ
  | created (.ok _) => 1
  | _ => 0

namespace BufferCall

/-- The numbers of a call are signed 64-bit words; those below zero are refused. -/
def Signed : BufferCall → Prop
  | create _ size .. => size < 2 ^ 63
  | update _ offset _ length _ => offset < 2 ^ 63 ∧ length < 2 ^ 63
  | destroy _ | binding .. => True

instance : DecidablePred Signed
  | create _ size .. => inferInstanceAs (Decidable (size < 2 ^ 63))
  | update _ offset _ length _ => inferInstanceAs (Decidable (offset < 2 ^ 63 ∧ length < 2 ^ 63))
  | destroy _ => inferInstanceAs (Decidable True)
  | binding .. => inferInstanceAs (Decidable True)

variable {δ P D : Type} [Device δ P D]

/-- Makes a call. -/
def perform (call : BufferCall) (a : BufferAllocator) (d : δ) :
    BufferAnswer × BufferAllocator × δ :=
  match call with
  | create usage size data host =>
    let (answer, a, d) := a.create usage size data d host
    (.created answer, a, d)
  | update handle offset data length serial =>
    let (answer, a, d) := a.update handle offset data length serial d
    (.done answer, a, d)
  | destroy handle =>
    let (answer, a, d) := a.destroy handle d
    (.done answer, a, d)
  | binding handle serial => (.bound (a.binding handle serial), a, d)

/-- Makes a call, step by step. Ending a buffer computes nothing. -/
def perform? (call : BufferCall) (a : BufferAllocator) (d : δ) :
    Option (BufferAnswer × BufferAllocator × δ) :=
  match call with
  | create usage size data host => do
    let (answer, a, d) ← a.create? usage size data d host
    return (.created answer, a, d)
  | update handle offset data length serial => do
    let (answer, a, d) ← a.update? handle offset data length serial d
    return (.done answer, a, d)
  | destroy handle =>
    let (answer, a, d) := a.destroy handle d
    some (.done answer, a, d)
  | binding handle serial => do
    let answer ← a.binding? handle serial
    return (.bound answer, a, d)

/-- What calls to memory keep, a call keeps. -/
lemma perform_keeps {I : δ → Prop} (h : Keeps I [.memory]) (call : BufferCall)
    (a : BufferAllocator) {d : δ} (hd : I d) : I (call.perform a d).2.2 := by
  have hself := h.simulates
  have hmemory : CallKind.memory ∈ [CallKind.memory] := List.mem_singleton_self _
  cases call with
  | create usage size data host =>
    exact (BufferAllocator.create_agree hself hmemory ⟨rfl, hd⟩ a usage size data host).2.2.2
  | update handle offset data length serial =>
    exact (BufferAllocator.update_agree hself hmemory ⟨rfl, hd⟩ a handle offset data length
      serial).2.2.2
  | destroy handle => exact (BufferAllocator.destroy_agree hself hmemory ⟨rfl, hd⟩ a handle).2.2.2
  | binding handle serial => exact hd

end BufferCall

/-! ### Records over allocations of their length -/

variable {δ P D : Type} [Device δ P D]

/-- Bounded records, each over a buffer that the device made with the length of its slots. -/
structure BufferAllocator.Housed (a : BufferAllocator) (t : Traced δ P D) : Prop where
  bounded : a.Bounded
  allocated : ∀ handle r, a.records.get? handle = some r → (r.total, r.buffer) ∈ t.created

namespace BufferAllocator.Housed

variable {a : BufferAllocator} {t t' : Traced δ P D}

/-- What a device makes later takes nothing away. -/
lemma later (ha : a.Housed t) (h : ∀ made ∈ t.created, made ∈ t'.created) : a.Housed t' where
  bounded := ha.bounded
  allocated handle r hr := h _ (ha.allocated handle r hr)

/-- One more record, or one in the place of another, and another ring. -/
lemma insert (ha : a.Housed t) {r : BufferRecord} (hr : r.Bounded)
    (hmade : (r.total, r.buffer) ∈ t.created) {ring : StagingRing} (hring : ring.Level)
    (handle : BufferHandle) (n : ℕ) :
    Housed { a with records := a.records.insert handle r, nextNumber := n, ring := ring } t := by
  have hcases : ∀ handle' r', (a.records.insert handle r).get? handle' = some r' →
      r' = r ∨ a.records.get? handle' = some r' := by
    intro handle' r' hr'
    rw [Table.get?_insert] at hr'
    split at hr'
    · exact .inl (Option.some.inj hr').symm
    · exact .inr hr'
  refine ⟨⟨?_, hring⟩, ?_⟩
  · intro handle' r' hr'
    rcases hcases handle' r' hr' with rfl | hold
    · exact hr
    · exact ha.bounded.record handle' r' hold
  · intro handle' r' hr'
    rcases hcases handle' r' hr' with rfl | hold
    · exact hmade
    · exact ha.allocated handle' r' hold

lemma erase (ha : a.Housed t) (handle : BufferHandle) :
    Housed { a with records := a.records.erase handle } t where
  bounded := by
    refine ⟨fun handle' r hr => ?_, ha.bounded.ring⟩
    exact ha.bounded.record handle' r (Laid.get?_of_erase hr).2
  allocated handle' r hr := ha.allocated handle' r (Laid.get?_of_erase hr).2

end BufferAllocator.Housed

namespace BufferCall

variable {a : BufferAllocator} {t : Traced δ P D}

/-- One call keeps records over allocations of their length, counts the buffers it makes, and does
not fail at any step as long as the next number is a word. -/
lemma perform_checked {call : BufferCall} (hcall : call.Signed) (ha : a.Housed t)
    (hg : Device.copyAlignment (P := P) (D := D) t.device < Word.range)
    (hpos : 0 < a.nextNumber) :
    (call.perform a t).2.1.Housed (call.perform a t).2.2 ∧
      (call.perform a t).2.1.nextNumber = a.nextNumber + (call.perform a t).1.issued ∧
      ((call.perform a t).2.1.nextNumber < Word.range →
        call.perform? a t = some (call.perform a t)) := by
  have hlater : a.Housed (call.perform a t).2.2 := ha.later fun made hmade =>
    perform_keeps (Traced.keeps_mem_created made [.memory]) call a hmade
  cases call with
  | create usage size data host =>
    obtain ⟨hsteps, hcase⟩ := BufferAllocator.create_checked hg hpos usage hcall data host
    rw [perform] at hlater ⊢
    rw [perform?]
    rcases hcase with ⟨fault, t', hcreate⟩ | ⟨handle, r, t', hcreate, hr, hmade⟩
    · rw [hcreate] at hlater hsteps ⊢
      refine ⟨hlater, rfl, fun hnumber => ?_⟩
      rw [hsteps hnumber]
      rfl
    · rw [hcreate] at hlater hsteps ⊢
      refine ⟨hlater.insert hr hmade ha.bounded.ring handle _, rfl, fun hnumber => ?_⟩
      rw [hsteps hnumber]
      rfl
  | update handle offset data length serial =>
    obtain ⟨hsteps, hcase⟩ :=
      BufferAllocator.update_checked ha.bounded handle hcall.1 hcall.2 data serial t
    rw [perform] at hlater ⊢
    rw [perform?, hsteps]
    rcases hupdate : a.update handle offset data length serial t with ⟨answer, a', t'⟩
    rw [hupdate] at hlater hcase
    dsimp only at hlater hcase
    rcases hcase with rfl | ⟨r, r', ring, hlive, hrecord, hr', hring, rfl⟩
    · exact ⟨hlater, rfl, fun _ => rfl⟩
    · have hmade : (r'.total, r'.buffer) ∈ t'.created := by
        rw [hrecord]
        exact hlater.allocated handle r hlive
      exact ⟨hlater.insert hr' hmade hring handle _, rfl, fun _ => rfl⟩
  | destroy handle =>
    rw [perform] at hlater ⊢
    rw [perform?]
    rw [BufferAllocator.destroy] at hlater ⊢
    rcases a.find_cases handle with ⟨r, -, hfind⟩ | ⟨-, hfind⟩
    · rw [hfind] at hlater ⊢
      exact ⟨hlater.erase handle, rfl, fun _ => rfl⟩
    · rw [hfind] at hlater ⊢
      exact ⟨hlater, rfl, fun _ => rfl⟩
  | binding handle serial =>
    rw [perform] at hlater ⊢
    rw [perform?, BufferAllocator.binding?_eq ha.bounded]
    exact ⟨hlater, rfl, fun _ => rfl⟩

end BufferCall

/-! ### Runs -/

/-- Buffers at work on a device, and how many were made so far. -/
structure BufferRun (δ P D : Type) where
  allocator : BufferAllocator
  device : Traced δ P D
  creations : ℕ := 0

namespace BufferRun

/-- No buffers yet. -/
def start (stagingCapacity : ℕ) (labels : Bool) (d : δ) : BufferRun δ P D where
  allocator := .ofConfig stagingCapacity labels
  device := ⟨d, []⟩

/-- Makes one call. -/
def perform (run : BufferRun δ P D) (call : BufferCall) : BufferRun δ P D :=
  let (answer, allocator, device) := call.perform run.allocator run.device
  ⟨allocator, device, run.creations + answer.issued⟩

/-- Makes calls one after the other. -/
def performAll (run : BufferRun δ P D) (calls : List BufferCall) : BufferRun δ P D :=
  calls.foldl perform run

/-- What every run keeps, on a device of this alignment. -/
structure Sound (g : ℕ) (run : BufferRun δ P D) : Prop where
  alignment : Device.copyAlignment (P := P) (D := D) run.device.device = g
  housed : run.allocator.Housed run.device
  numbered : run.allocator.nextNumber = run.creations + 1

variable {g : ℕ} {d : δ} {run : BufferRun δ P D} {call : BufferCall}

lemma sound_start (hd : Device.copyAlignment (P := P) (D := D) d = g) (stagingCapacity : ℕ)
    (labels : Bool) : (start stagingCapacity labels d : BufferRun δ P D).Sound g where
  alignment := hd
  housed := by
    refine ⟨⟨?_, .ofCapacity stagingCapacity⟩, ?_⟩
    · intro handle r hr
      cases hr
    · intro handle r hr
      cases hr
  numbered := rfl

/-- One more call. -/
lemma Sound.perform (h : run.Sound g) (hg : g < Word.range)
    (hfixed : Keeps (P := P) (D := D) (fun d : δ => Device.copyAlignment (P := P) (D := D) d = g)
      [.memory]) (hcall : call.Signed) :
    (run.perform call).Sound g ∧ ((run.perform call).creations + 1 < Word.range →
      call.perform? run.allocator run.device = some (call.perform run.allocator run.device)) := by
  have halignment : Device.copyAlignment (P := P) (D := D)
      (call.perform run.allocator run.device).2.2.device = g :=
    BufferCall.perform_keeps (Traced.keeps hfixed) call run.allocator h.alignment
  have hword : Device.copyAlignment (P := P) (D := D) run.device.device < Word.range := by
    rw [h.alignment]
    exact hg
  have hpos : 0 < run.allocator.nextNumber := by
    rw [h.numbered]
    exact Nat.succ_pos _
  obtain ⟨hhoused, hnumber, hsteps⟩ := BufferCall.perform_checked hcall h.housed hword hpos
  have hnumbered : (run.perform call).allocator.nextNumber = (run.perform call).creations + 1 := by
    calc (run.perform call).allocator.nextNumber
      _ = run.allocator.nextNumber + (call.perform run.allocator run.device).1.issued := hnumber
      _ = run.creations + 1 + (call.perform run.allocator run.device).1.issued := by
          rw [h.numbered]
      _ = run.creations + (call.perform run.allocator run.device).1.issued + 1 := by omega
  refine ⟨⟨halignment, hhoused, hnumbered⟩, fun hcount => hsteps ?_⟩
  rw [← hnumbered] at hcount
  exact hcount

/-- Any number of calls. -/
lemma Sound.performAll {calls : List BufferCall} (h : run.Sound g) (hg : g < Word.range)
    (hfixed : Keeps (P := P) (D := D) (fun d : δ => Device.copyAlignment (P := P) (D := D) d = g)
      [.memory]) (hcalls : ∀ call ∈ calls, call.Signed) : (run.performAll calls).Sound g := by
  induction calls generalizing run with
  | nil => exact h
  | cons call calls ih =>
    obtain ⟨hstep, -⟩ := h.perform hg hfixed (hcalls call (by simp))
    exact ih hstep fun c hc => hcalls c (List.mem_cons_of_mem _ hc)

end BufferRun

/-- **Calls on buffers never fail for arithmetic.** After any calls, on any device with a fixed
64-bit alignment, the next call overflows nowhere, indexes byte strings inside and loses no bits of
an index. The buffers are numbered from one, and the number that the next one would get has to be a
word, too. Slots are long enough for what was asked for, the slots of a buffer are a word of bytes
together, a shadow has that length, and so had the allocation when it was made. Draws read inside
it. -/
theorem buffer_calls_checked {δ P D : Type} [Device δ P D] {g : ℕ} (hg : g < Word.range)
    (hfixed : Keeps (P := P) (D := D) (fun d : δ => Device.copyAlignment (P := P) (D := D) d = g)
      [.memory]) {d : δ} (hd : Device.copyAlignment (P := P) (D := D) d = g)
    (stagingCapacity : ℕ) (labels : Bool) (calls : List BufferCall) (call : BufferCall)
    (hcalls : ∀ c ∈ calls ++ [call], c.Signed) :
    let run : BufferRun δ P D := (BufferRun.start stagingCapacity labels d).performAll calls
    ((run.perform call).creations + 1 < Word.range →
      call.perform? run.allocator run.device = some (call.perform run.allocator run.device)) ∧
    (∀ handle r, run.allocator.records.get? handle = some r →
      r.size ≤ r.slotSize ∧ r.slotCount * r.slotSize < Word.range ∧
        (∀ shadow, r.shadow = some shadow → shadow.size = r.slotCount * r.slotSize) ∧
        (r.slotCount * r.slotSize, r.buffer) ∈ run.device.created) ∧
    ∀ handle serial binding, run.allocator.binding handle serial = .ok binding →
      ∃ r, run.allocator.records.get? handle = some r ∧ binding.buffer = r.buffer ∧
        binding.offset + binding.size ≤ r.slotCount * r.slotSize := by
  intro run
  have hrun : run.Sound g := (BufferRun.sound_start hd stagingCapacity labels).performAll hg hfixed
    fun c hc => hcalls c (List.mem_append_left _ hc)
  refine ⟨(hrun.perform hg hfixed (hcalls call (by simp))).2, ?_, ?_⟩
  · intro handle r hr
    have hbounded := hrun.housed.bounded.record handle r hr
    have htotal : r.slotCount * r.slotSize = r.total := Nat.mul_comm _ _
    rw [htotal]
    exact ⟨hbounded.size_le, hbounded.total_lt, hbounded.shadow_size,
      hrun.housed.allocated handle r hr⟩
  · intro handle serial binding hbinding
    rcases run.allocator.find_cases handle with ⟨r, hr, hfind⟩ | ⟨-, hfind⟩
    · rw [BufferAllocator.binding, hfind] at hbinding
      cases hbinding
      have hbounded := hrun.housed.bounded.record handle r hr
      refine ⟨r, hr, rfl, ?_⟩
      rw [Nat.mul_comm]
      exact hbounded.slot_add_le (r.activeSlot_lt serial) le_rfl
    · rw [BufferAllocator.binding, hfind] at hbinding
      cases hbinding

/-- Calls to memory leave the alignment of a device in host memory as it is. -/
lemma FaultyDevice.keeps_copyAlignment (g : ℕ) :
    Keeps (fun d : FaultyDevice => Device.copyAlignment d = g) [.memory] := by
  intro request hkind d hd
  have hframe : Heap.Frame (fun _ => False) d.heap (request.perform d).2.heap := by
    refine frame_perform request (List.mem_singleton.mp hkind) d ⟨?_, ?_, fun _ _ h => h.elim⟩
    · cases request <;> rfl
    · cases request <;> first | exact le_rfl | exact Nat.le_succ _
  calc Device.copyAlignment (request.perform d).2
    _ = max d.memory.alignment 1 := congrArg (fun n => max n 1) hframe.alignment
    _ = g := hd

/-- A device with a granule of six bytes, whose first upload fails. -/
def unevenDevice : FaultyDevice :=
  FaultyDevice.arm .writeBuffer 1 (.resource .targetsNotReady) { memory := { alignment := 6 } }

/-- A buffer that could not be filled, and one without initial data. -/
def unevenRun : BufferRun FaultyDevice CompiledPipeline CompiledDepthStencil :=
  (BufferRun.start 300 true unevenDevice).performAll
    [.create .unchanging 10 (some #[1, 2, 3]), .create .unchanging 10 none]

/-- An update at the end of the second one goes through, on a shadow of two granules. -/
theorem buffer_calls_checked_unevenRun :
    (BufferCall.update .first 8 (some #[1, 2]) 2 {}).perform? unevenRun.allocator
        unevenRun.device =
      some ((BufferCall.update .first 8 (some #[1, 2]) 2 {}).perform unevenRun.allocator
        unevenRun.device) ∧
    ∃ r shadow, unevenRun.allocator.records.get? .first = some r ∧ r.shadow = some shadow ∧
      shadow.size = 12 ∧ (12, r.buffer) ∈ unevenRun.device.created := by
  obtain ⟨hsteps, hrecords, -⟩ := buffer_calls_checked (g := 6) (d := unevenDevice)
    (by decide) (FaultyDevice.keeps_copyAlignment 6) rfl 300 true
    [.create .unchanging 10 (some #[1, 2, 3]), .create .unchanging 10 none]
    (.update .first 8 (some #[1, 2]) 2 {}) (by decide)
  refine ⟨hsteps (by decide +kernel), ?_⟩
  have hlive : (unevenRun.allocator.records.get? .first).map (fun r =>
      (r.shadow.isSome, r.slotCount * r.slotSize)) = some (true, 12) := by decide +kernel
  obtain ⟨r, hr, hvalue⟩ := Option.map_eq_some_iff.mp hlive
  obtain ⟨hshadow, htotal⟩ := Prod.mk.inj hvalue
  obtain ⟨shadow, hshadow⟩ := Option.isSome_iff_exists.mp hshadow
  obtain ⟨-, -, hsize, hmade⟩ := hrecords .first r hr
  rw [htotal] at hsize hmade
  exact ⟨r, shadow, hr, hshadow, hsize shadow hshadow, hmade⟩

/-! ### The last number -/

/-- A device in host memory that copies single bytes and on which nothing is to fail. -/
structure FaultyDevice.Plain (d : FaultyDevice) : Prop where
  alignment : d.memory.alignment = 0
  unarmed : d.armed = {}

/-- A request for a buffer of four bytes, without initial data. -/
def fourBytes : BufferCall := .create .unchanging 4 none

/-- Such a device makes a buffer of four bytes. -/
lemma FaultyDevice.Plain.createBuffer {d : FaultyDevice} (h : d.Plain) (label : Option String) :
    ∃ buffer d', Device.createBuffer 4 label d = (.ok buffer, d') ∧ d'.Plain := by
  obtain ⟨memory, armed, labels⟩ := d
  obtain rfl : armed = {} := h.unarmed
  exact ⟨_, _, rfl, h.alignment, rfl⟩

/-- A buffer of four bytes is made under every number that is a word; taking it in fails where the
number behind it is none. -/
lemma BufferCall.perform_fourBytes {a : BufferAllocator} {t : HostDevice} (ht : t.device.Plain)
    (hpos : 0 < a.nextNumber) (hword : a.nextNumber < Word.range) :
    ∃ handle a' t', fourBytes.perform a t = (.created (.ok handle), a', t') ∧ t'.device.Plain ∧
      (a.nextNumber + 1 = Word.range → fourBytes.perform? a t = none) := by
  have hgranule : ∀ {t : HostDevice}, t.device.Plain → BufferAllocator.granule t = 1 := by
    intro t ht
    change max (max t.device.memory.alignment 1) 1 = 1
    rw [ht.alignment]
    rfl
  have hcheck : BufferAllocator.checkCreate .unchanging 4 none 1 = .ok 4 := by decide
  obtain ⟨buffer, d', hinner, hd'⟩ := ht.createBuffer (a.nextLabel .unchanging)
  obtain ⟨t', hcall, ht'⟩ : ∃ t', Device.createBuffer (4 * BufferUsage.unchanging.slotCount)
      (a.nextLabel .unchanging) t = (.ok buffer, t') ∧ t'.device.Plain :=
    have hrequest : (Request.createBuffer 4 (a.nextLabel .unchanging) : HostRequest).perform
        t.device = (.ok buffer, d') := hinner
    ⟨_, Traced.call_eq hrequest, hd'⟩
  have hfill : BufferAllocator.fill .ample ⟨.unchanging, 4, 4, buffer, none⟩ none t' =
      (.ok ⟨.unchanging, 4, 4, buffer, none⟩, t') := by
    rw [BufferAllocator.fill, hgranule ht']
    rfl
  have hfill? : BufferAllocator.fill? .ample ⟨.unchanging, 4, 4, buffer, none⟩ none t' =
      some (.ok ⟨.unchanging, 4, 4, buffer, none⟩, t') := by
    rw [BufferAllocator.fill?, hgranule ht']
    rfl
  obtain ⟨handle, hnumber⟩ := BufferHandle.exists_nth?_eq hpos hword
  refine ⟨handle, { a with
    records := a.records.insert handle ⟨.unchanging, 4, 4, buffer, none⟩
    nextNumber := a.nextNumber + 1 }, t', ?_, ht', fun hlast => ?_⟩
  · have hcreate : a.create .unchanging 4 none t = (.ok handle, { a with
        records := a.records.insert handle ⟨.unchanging, 4, 4, buffer, none⟩
        nextNumber := a.nextNumber + 1 }, t') := by
      rw [BufferAllocator.create, hgranule ht, hcheck]
      dsimp only
      rw [hcall]
      dsimp only [Int.toNat]
      rw [hfill]
      dsimp only
      rw [BufferAllocator.issue, hnumber]
    rw [fourBytes, perform, hcreate]
  · have hnext : Word.add? a.nextNumber 1 = none := if_neg (by omega)
    have hcreate : a.create? .unchanging 4 none t = none := by
      rw [BufferAllocator.create?, hgranule ht, BufferAllocator.checkCreate?_eq, hcheck]
      simp only [Option.bind_eq_bind, Option.bind_some]
      rw [hcall]
      dsimp only [Int.toNat]
      rw [hfill?]
      simp only [Option.bind_some]
      rw [BufferAllocator.issue?, hnext]
      rfl
    rw [fourBytes, perform?, hcreate]
    rfl

namespace BufferRun

variable {run : BufferRun FaultyDevice CompiledPipeline CompiledDepthStencil}

/-- As many buffers of four bytes are made as are asked for, while there are numbers for them. -/
lemma Sound.replicate (h : run.Sound 1) (hd : run.device.device.Plain) (n : ℕ)
    (hword : run.creations + n < Word.range) :
    let run' := run.performAll (List.replicate n fourBytes)
    run'.Sound 1 ∧ run'.device.device.Plain ∧ run'.creations = run.creations + n := by
  induction n generalizing run with
  | zero => exact ⟨h, hd, rfl⟩
  | succ n ih =>
    have hnumber := h.numbered
    obtain ⟨handle, a, t, hcall, ht, -⟩ := BufferCall.perform_fourBytes hd
      (by omega) (by omega : run.allocator.nextNumber < Word.range)
    have hstep : run.perform fourBytes = ⟨a, t, run.creations + 1⟩ := by
      rw [BufferRun.perform, hcall]
      rfl
    have hsound : (run.perform fourBytes).Sound 1 :=
      (h.perform (by decide) (FaultyDevice.keeps_copyAlignment 1) (by decide)).1
    rw [hstep] at hsound
    have hrest := ih hsound ht (by dsimp only; omega)
    rw [List.replicate_succ, BufferRun.performAll, List.foldl_cons, hstep]
    refine ⟨hrest.1, hrest.2.1, hrest.2.2.trans ?_⟩
    dsimp only
    omega

/-- The buffer of the last number that is a word overflows the number behind it. How many were made
before is a variable here, so that nothing unrolls their run. -/
lemma last_number {n : ℕ} (hn : n + 2 = Word.range) :
    let run : BufferRun FaultyDevice CompiledPipeline CompiledDepthStencil :=
      (start 0 false {}).performAll (List.replicate n fourBytes)
    (run.perform fourBytes).creations < Word.range ∧
      fourBytes.perform? run.allocator run.device = none := by
  have hstart : (start 0 false {} : BufferRun FaultyDevice CompiledPipeline
      CompiledDepthStencil).Sound 1 := sound_start (g := 1) (d := ({} : FaultyDevice)) rfl 0 false
  have hcount₀ : (start 0 false {} : BufferRun FaultyDevice CompiledPipeline
      CompiledDepthStencil).creations = 0 := rfl
  obtain ⟨hsound, hd, hcount⟩ := hstart.replicate ⟨rfl, rfl⟩ n (by omega)
  intro run
  have hnumber : run.allocator.nextNumber = run.creations + 1 := hsound.numbered
  have hcreations : run.creations = n := by
    rw [hcount, hcount₀, Nat.zero_add]
  obtain ⟨handle, a, t, hcall, -, hlast⟩ := BufferCall.perform_fourBytes hd
    (by omega) (by omega : run.allocator.nextNumber < Word.range)
  refine ⟨?_, hlast (by omega)⟩
  rw [BufferRun.perform, hcall]
  change run.creations + 1 < Word.range
  omega

end BufferRun

/-- Fewer than `2 ^ 64` buffers may still be one too many: with the buffer of the last number, which
is the word before `2 ^ 64`, the number of the next one overflows. -/
theorem last_number_overflows :
    let run : BufferRun FaultyDevice CompiledPipeline CompiledDepthStencil :=
      (BufferRun.start 0 false {}).performAll (List.replicate (Word.range - 2) fourBytes)
    (run.perform fourBytes).creations < Word.range ∧
      fourBytes.perform? run.allocator run.device = none :=
  BufferRun.last_number (by decide)

end RenderBridge
