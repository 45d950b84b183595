import RenderBridge.Proofs.Buffer.Allocator
import RenderBridge.Proofs.Context.Work
/-!
Frames in flight keep their slots of dynamic buffers.

* `FaultyDevice.InFrame`: work of a frame, submitted or still to be submitted.
* `Step.run_placed`: **every frame binds its own slot**: what is bound by the work of a frame is a
  slot of a buffer that was live when the work was recorded, and that the serial of the frame chose.
* `Step.record_unique`: two buffers over one allocation, at any two times of a run, are one buffer.
* `Op.update_target`: an update only writes the slot of the frame.
-/

set_option autoImplicit false

namespace RenderBridge

/-- The buffers that work binds, with the offsets they are bound at. -/
def RecordedWork.places : RecordedWork → List (BufferId × ℕ)
  | clear _ => []
  | draw _ _ vertex index => vertex.toList ++ index.toList

namespace FaultyDevice

/-- Work of the frame with a number: it was submitted with that frame, or waits to be. -/
def InFrame (d : FaultyDevice) (k : ℕ) (work : RecordedWork) : Prop :=
  ∃ works, (d.memory.submitted ++ [d.memory.pending])[k]? = some works ∧ work ∈ works

end FaultyDevice

/-! ### What a frame binds -/

/-- The range of a live buffer that the serial of a context chooses. -/
def Context.Places (c : HostContext FaultyDevice) (place : BufferId × ℕ) : Prop :=
  ∃ handle r, c.buffers.records.get? handle = some r ∧
    place = (r.buffer, r.activeOffset c.serial)

namespace Context.Records

variable {c c' : HostContext FaultyDevice} {works : List RecordedWork}

/-- New work belongs to the frame that is being recorded; other work stays in its frame. -/
lemma inFrame (h : c.Records c' works) {k : ℕ} {work : RecordedWork}
    (hwork : c'.device.InFrame k work) :
    c.device.InFrame k work ∨ (k = c.device.memory.submitted.length ∧ work ∈ works) := by
  obtain ⟨frame, hframe, hmem⟩ := hwork
  -- In both cases the frames are the ones submitted, the grown one, and perhaps an empty one.
  obtain ⟨rest, hrest, hframes⟩ : ∃ rest : List (List RecordedWork), (∀ works ∈ rest, works = []) ∧
      c'.device.memory.submitted ++ [c'.device.memory.pending] =
        c.device.memory.submitted ++ (c.device.memory.pending ++ works) :: rest := by
    cases h with
    | waits _ hpending hsubmitted => exact ⟨[], by simp, by rw [hpending, hsubmitted]⟩
    | leaves _ hpending hsubmitted =>
      exact ⟨[[]], by simp, by rw [hpending, hsubmitted, List.append_assoc]; rfl⟩
  rw [hframes] at hframe
  rcases Nat.lt_trichotomy k c.device.memory.submitted.length with hlt | rfl | hgt
  · rw [List.getElem?_append_left hlt] at hframe
    exact .inl ⟨frame, by rw [List.getElem?_append_left hlt]; exact hframe, hmem⟩
  · rw [List.getElem?_append_right le_rfl, Nat.sub_self, List.getElem?_cons_zero] at hframe
    obtain rfl := Option.some.inj hframe
    rcases List.mem_append.mp hmem with hold | hnew
    · exact .inl ⟨_, by rw [List.getElem?_append_right le_rfl, Nat.sub_self]; rfl, hold⟩
    · exact .inr ⟨rfl, hnew⟩
  · obtain ⟨n, hn⟩ := Nat.exists_eq_add_of_lt hgt
    rw [List.getElem?_append_right (by omega), hn, Nat.add_assoc, Nat.add_sub_cancel_left,
      List.getElem?_cons_succ] at hframe
    rw [hrest frame (List.mem_of_getElem? hframe)] at hmem
    cases hmem

end Context.Records

/-- What a draw binds is chosen by the serial. -/
lemma Op.Encodes.places {op : Op} {c c' : HostContext FaultyDevice} {work : RecordedWork}
    (h : op.Encodes c c' work) {place : BufferId × ℕ} (hplace : place ∈ work.places) :
    c.Places place := by
  have hbound : ∀ bound : Option BufferHandle,
      place ∈ ((bound.bind fun handle => (c.buffers.records.get? handle).map
        (·.binding c.serial)).map MemoryDevice.place).toList → c.Places place := by
    intro bound hmem
    rw [Option.mem_toList, Option.map_eq_some_iff] at hmem
    obtain ⟨binding, hbinding, rfl⟩ := hmem
    obtain ⟨handle, -, hlive⟩ := Option.bind_eq_some_iff.mp hbinding
    obtain ⟨r, hr, rfl⟩ := Option.map_eq_some_iff.mp hlive
    exact ⟨handle, r, hr, rfl⟩
  cases h with
  | whole =>
    rcases List.mem_append.mp hplace with hvertex | hindex
    · refine hbound (c.bindings.vertex.map (·.1)) ?_
      rw [Option.bind_map]
      exact hvertex
    · exact hbound c.bindings.index hindex
  | cut => cases hplace

namespace Step

variable {c : HostContext FaultyDevice}

/-- What a step records, and what that binds. -/
lemma records_places (step : Step Arming) (c : HostContext FaultyDevice) :
    ∃ works, c.Records (step.apply c) works ∧
      ∀ work ∈ works, ∀ place ∈ work.places, c.Places place := by
  obtain ⟨works, hrecords, hworks⟩ := step.records_cases c
  refine ⟨works, hrecords, fun work hwork place hplace => ?_⟩
  rcases hworks work hwork with ⟨color, rfl⟩ | ⟨op, -, hencodes⟩
  · cases hplace
  · exact hencodes.places hplace

/-- The serial counts the submissions, and what the work of a frame binds was chosen, earlier in the
run, by the serial of that frame. -/
theorem run_placed (hc : c.Counted) (hstart : ∀ k work, ¬ c.device.InFrame k work)
    (steps : List (Step Arming)) :
    (run steps c).Counted ∧
      ∀ k work, (run steps c).device.InFrame k work → ∀ place ∈ work.places,
        ∃ earlier, earlier <+: steps ∧ (run earlier c).serial.count = UInt64.ofNat k ∧
          (run earlier c).Places place := by
  induction steps using List.reverseRecOn with
  | nil => exact ⟨hc, fun k work hwork => absurd hwork (hstart k work)⟩
  | append_singleton steps step ih =>
    obtain ⟨hcounted, hplaced⟩ := ih
    obtain ⟨works, hrecords, hplaces⟩ := step.records_places (run steps c)
    rw [run_append, run_cons, run_nil]
    refine ⟨hrecords.counted hcounted, fun k work hwork place hplace => ?_⟩
    rcases hrecords.inFrame hwork with hold | ⟨rfl, hnew⟩
    · obtain ⟨earlier, hbegins, hserial, hlive⟩ := hplaced k work hold place hplace
      exact ⟨earlier, hbegins.trans (List.prefix_append _ _), hserial, hlive⟩
    · exact ⟨steps, List.prefix_append _ _, hcounted, hplaces work hnew place hplace⟩

/-! ### One buffer for each allocation -/

/-- Two buffers over one allocation, the second at a later time of the run, are one buffer. -/
lemma record_unique_of_earlier (ha : c.buffers.Laid c.device.heap)
    {earlier later : List (Step Arming)} (hbegins : earlier <+: later)
    {handle handle' : BufferHandle} {r r' : BufferRecord}
    (hr : (run earlier c).buffers.records.get? handle = some r)
    (hr' : (run later c).buffers.records.get? handle' = some r') (hsame : r'.buffer = r.buffer) :
    r' = { r with shadow := r'.shadow } := by
  obtain ⟨rest, rfl⟩ := hbegins
  have hlaid : (run earlier c).buffers.Laid (run earlier c).device.heap := by
    have h := (run_laid earlier (c := c.traced []) ha).1
    rw [run_traced] at h
    exact h
  have hdescends := (run_laid rest (c := (run earlier c).traced []) hlaid).2
  rw [run_traced] at hdescends
  rw [run_append] at hr'
  have hmade : r'.buffer ≤ (run earlier c).device.heap.created := by
    rw [hsame]
    exact (hlaid.record handle r hr).made
  obtain ⟨r₀, hr₀, heq⟩ := hdescends.record handle' r' hr' hmade
  have hbuffer : r₀.buffer = r.buffer := by rw [← hsame, heq]
  obtain rfl := hlaid.distinct handle' handle r₀ r hr₀ hr hbuffer
  cases hr₀.symm.trans hr
  exact heq

/-- Two buffers over one allocation, at any two times of a run, are one buffer. -/
theorem record_unique (ha : c.buffers.Laid c.device.heap)
    {steps earlier earlier' : List (Step Arming)}
    (hbegins : earlier <+: steps) (hbegins' : earlier' <+: steps)
    {handle handle' : BufferHandle} {r r' : BufferRecord}
    (hr : (run earlier c).buffers.records.get? handle = some r)
    (hr' : (run earlier' c).buffers.records.get? handle' = some r') (hsame : r'.buffer = r.buffer) :
    r'.usage = r.usage ∧ r'.slotSize = r.slotSize := by
  rcases List.prefix_or_prefix_of_prefix hbegins hbegins' with hle | hle
  · rw [record_unique_of_earlier ha hle hr hr' hsame]
    exact ⟨rfl, rfl⟩
  · rw [record_unique_of_earlier ha hle hr' hr hsame.symm]
    exact ⟨rfl, rfl⟩

end Step

/-! ### What an update writes -/

/-- An update writes to a dynamic buffer only inside the slot of the frame. -/
lemma Op.update_target {c : HostContext FaultyDevice} (ha : c.buffers.Laid c.device.heap)
    {handle : BufferHandle} {offset length : ℤ} {data : Option Bytes} {e : HostExchange}
    (he : e ∈ Op.exchanges (.updateBuffer handle offset data length) c) {start count : ℕ}
    {handle' : BufferHandle} {r : BufferRecord}
    (hr : c.buffers.records.get? handle' = some r)
    (htarget : e.request.target = some (r.buffer, start, count)) :
    r.activeOffset c.serial ≤ start ∧ start + count ≤ r.activeOffset c.serial + r.slotSize := by
  have heffect := Op.bufferEffect (c := c.traced []) (.updateBuffer handle offset data length) ha
  rw [exchanges] at he
  revert heffect he
  generalize (Op.apply (.updateBuffer handle offset data length) (c.traced [])).1 = answer
  generalize (Op.apply (.updateBuffer handle offset data length) (c.traced [])).2 = c'
  intro he heffect
  cases heffect with
  | other hcalls _ _ => exact absurd (List.mem_singleton.mpr rfl) hcalls
  | refused _ => cases he
  | empty _ => cases he
  | updated _ _ hasked hupdated =>
    obtain ⟨es, hes, hall⟩ := hupdated.since
    rw [hes] at he
    have hwithin := (hall e he).2 r.buffer start count htarget (ha.record handle' r hr).made
      fun hring => ha.apart r.buffer hring handle' r hr rfl
    obtain ⟨hbuffer, hstart, hstop⟩ := hwithin
    obtain rfl := ha.distinct handle' handle _ _ hr hasked.live hbuffer
    cases hr.symm.trans hasked.live
    exact ⟨hstart, hstop⟩

/-! ### Isolation -/

/-- A context on a new device has recorded nothing. -/
lemma FaultyDevice.Fresh.not_inFrame {d : FaultyDevice} (h : d.Fresh) (k : ℕ)
    (work : RecordedWork) : ¬ d.InFrame k work := by
  rintro ⟨works, hworks, hmem⟩
  rw [h.submitted, h.pending] at hworks
  obtain rfl := List.mem_singleton.mp (List.mem_of_getElem? hworks)
  cases hmem

/-- **Frames in flight keep their slots.** Take any run on a device in host memory with copies in
granules of any power of two, whatever fails. What the work of submission `k` binds, also where it
was left pending by earlier ones, is a buffer that was live in the run: a static one is bound at its
start, a dynamic one at slot `k % 3`. And what an update in frame `s` writes of a dynamic buffer,
whole granules included, lies in slot `s % 3`, apart from the slots of the two frames before. -/
theorem dynamic_buffers_isolated (config : Config) (ui : UiThread) (d : FaultyDevice)
    (hpow : d.PowerAligned) (hfresh : d.Fresh) (steps : List (Step Arming)) :
    let c₀ : HostContext FaultyDevice := .ofDevice config ui d
    let c := Step.run steps c₀
    (c.device.memory.submitted.length < 2 ^ 64 →
      c.serial.count.toNat = c.device.memory.submitted.length) ∧
    (∀ k works, k < 2 ^ 64 → c.device.memory.submitted[k]? = some works →
      ∀ work ∈ works, ∀ place ∈ work.places,
        (∃ earlier handle r, earlier <+: steps ∧
          (Step.run earlier c₀).buffers.records.get? handle = some r ∧ r.buffer = place.1) ∧
        ∀ earlier handle r, earlier <+: steps →
          (Step.run earlier c₀).buffers.records.get? handle = some r → r.buffer = place.1 →
            (r.usage = .unchanging → place.2 = 0) ∧
            (r.usage = .changing → place.2 = k % 3 * r.slotSize)) ∧
    (∀ handle offset data length,
      ∀ e ∈ Op.exchanges (.updateBuffer handle offset data length) c,
        ∀ handle' r start count, c.buffers.records.get? handle' = some r →
          r.usage = .changing → e.request.target = some (r.buffer, start, count) →
            let s := c.serial.count.toNat
            (s % 3 * r.slotSize ≤ start ∧ start + count ≤ (s % 3 + 1) * r.slotSize) ∧
            ∀ p, p < s → s ≤ p + 2 →
              start + count ≤ p % 3 * r.slotSize ∨ (p % 3 + 1) * r.slotSize ≤ start) := by
  intro c₀ c
  have hlaid₀ : c₀.buffers.Laid c₀.device.heap := .ofConfig hpow.granule_pow _ _
  have hcounted₀ : c₀.Counted := by
    have hnone : c₀.device.memory.submitted = [] := hfresh.submitted
    rw [Context.Counted, hnone]
    rfl
  obtain ⟨hcounted, hplaced⟩ := Step.run_placed hcounted₀ hfresh.not_inFrame steps
  refine ⟨fun hfew => ?_, fun k works hk hworks work hwork place hplace => ?_, ?_⟩
  · rw [hcounted, UInt64.toNat_ofNat_of_lt' hfew]
  · have hlength := (List.getElem?_eq_some_iff.mp hworks).1
    have hframe : c.device.InFrame k work :=
      ⟨works, by rw [List.getElem?_append_left hlength]; exact hworks, hwork⟩
    obtain ⟨before, hbegins, hserial, handle, r, hr, rfl⟩ := hplaced k work hframe place hplace
    refine ⟨⟨before, handle, r, hbegins, hr, rfl⟩, fun earlier handle' r' hearlier hr' hsame => ?_⟩
    obtain ⟨husage, hsize⟩ := Step.record_unique hlaid₀ hbegins hearlier hr hr' hsame
    have hactive : r.activeOffset (Step.run before c₀).serial =
        k % max r.slotCount 1 * r.slotSize := by
      rw [BufferRecord.activeOffset, BufferRecord.activeSlot, FrameSerial.slot, hserial,
        UInt64.toNat_ofNat_of_lt' hk, BufferRecord.slotOffset]
    rw [hactive, husage, hsize, BufferRecord.slotCount]
    constructor
    · intro hunchanging
      rw [hunchanging, BufferUsage.slotCount, max_self, Nat.mod_one, Nat.zero_mul]
    · intro hchanging
      rw [hchanging]
      rfl
  · intro handle offset data length e he handle' r start count hr husage htarget s
    have hlaid : c.buffers.Laid c.device.heap := by
      have h := (Step.run_laid steps (c := c₀.traced []) hlaid₀).1
      rw [Step.run_traced] at h
      exact h
    obtain ⟨hstart, hstop⟩ := Op.update_target hlaid he hr htarget
    have hactive : r.activeOffset c.serial = r.slotOffset (s % 3) := by
      rw [BufferRecord.activeOffset, BufferRecord.activeSlot, BufferRecord.slotCount, husage]
      rfl
    rw [hactive] at hstart hstop
    have hend : ∀ slot, r.slotOffset slot + r.slotSize = (slot + 1) * r.slotSize := fun slot => by
      rw [BufferRecord.slotOffset]
      ring
    rw [hend] at hstop
    refine ⟨⟨hstart, hstop⟩, fun p hlt hle => ?_⟩
    -- Three frames in a row have three different slots.
    rcases r.slotOffset_apart (show s % 3 ≠ p % 3 by omega) with happart | happart
    · rw [hend] at happart
      exact .inl (hstop.trans happart)
    · rw [hend] at happart
      exact .inr (happart.trans hstart)

/-- Two frames that draw with the indices of one dynamic buffer. -/
def twoIndexedFrames : List (Step Arming) := [.perform (.createBuffer 1 6 none),
  .perform (.bindIndex .first), .perform (.drawIndexed Token.triangles 3 0x1403),
  .perform (.drawIndexed Token.triangles 3 0x1403)]

/-- On a device that copies in granules of four, the second frame binds the second slot. -/
theorem dynamic_buffers_isolated_twoIndexedFrames :
    (FaultyDevice.ofAlignment (2 ^ 2)).PowerAligned ∧ (FaultyDevice.ofAlignment (2 ^ 2)).Fresh ∧
      ∀ c₀ : HostContext FaultyDevice, c₀ = .ofDevice {} .stopped (.ofAlignment (2 ^ 2)) →
        ((Step.run twoIndexedFrames c₀).device.memory.submitted.map fun works =>
          works.flatMap (·.places)) = [[(1, 0)], [(1, 256)]] ∧
        ∀ works, (Step.run twoIndexedFrames c₀).device.memory.submitted[1]? = some works →
          ∀ work ∈ works, ∀ place ∈ work.places,
          ∀ earlier handle r, earlier <+: twoIndexedFrames →
            (Step.run earlier c₀).buffers.records.get? handle = some r → r.buffer = place.1 →
              r.usage = .changing → place.2 = 1 % 3 * r.slotSize := by
  have hpow := FaultyDevice.powerAligned_ofAlignment (k := 2) (by decide)
  have hfresh := FaultyDevice.fresh_ofAlignment (2 ^ 2)
  have hplaces : ((Step.run twoIndexedFrames (.ofDevice {} .stopped (.ofAlignment (2 ^ 2)) :
      HostContext FaultyDevice)).device.memory.submitted.map fun works =>
        works.flatMap (·.places)) = [[(1, 0)], [(1, 256)]] := by decide +kernel
  refine ⟨hpow, hfresh, ?_⟩
  rintro c₀ rfl
  refine ⟨hplaces, fun works hworks work hwork place hplace earlier handle r => ?_⟩
  intro hbegins hr hsame
  have hbound := (dynamic_buffers_isolated {} .stopped _ hpow hfresh twoIndexedFrames).2.1 1 works
    (by decide) hworks work hwork place hplace
  exact (hbound.2 earlier handle r hbegins hr hsame).2

end RenderBridge
