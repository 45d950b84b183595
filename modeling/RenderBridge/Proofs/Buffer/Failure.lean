import RenderBridge.Proofs.Buffer.Held
/-!
How far a failed update is seen.

* `HeldBuffers.AgreeOff`: buffers that differ in spared bytes only, in what was meant and in what is
  held; `HeldBuffers.AgreeOff.perform` and `run`: no operation spreads the difference, and no run.
* `failed_update_contained`: **a failed update is not seen** at once, and later only in the bytes
  that it was to write, where the device copies in granules.
-/

set_option autoImplicit false

namespace RenderBridge

/-! ### Buffers that agree off a range -/

/-- Byte strings of one length that agree at all positions but the spared ones. -/
def Bytes.AgreeOff (spared : ℕ → Prop) (a b : Bytes) : Prop :=
  a.size = b.size ∧ ∀ i, ¬ spared i → a[i]? = b[i]?

namespace Bytes.AgreeOff

variable {spared : ℕ → Prop} {a b x y : Bytes}

lemma refl (spared : ℕ → Prop) (a : Bytes) : AgreeOff spared a a := ⟨rfl, fun _ _ => rfl⟩

lemma mono {spared' : ℕ → Prop} (h : AgreeOff spared a b) (hspared : ∀ i, spared i → spared' i) :
    AgreeOff spared' a b :=
  ⟨h.1, fun i hi => h.2 i fun hs => hi (hspared i hs)⟩

/-- Replacing a range by the same bytes keeps the agreement. -/
lemma patched (h : AgreeOff spared a b) (offset length : ℕ) (data : Bytes) :
    AgreeOff spared (a.patched offset length data) (b.patched offset length data) := by
  refine ⟨by rw [size_patched, size_patched, h.1], fun i hi => ?_⟩
  rw [getElem?_patched, getElem?_patched, h.1, h.2 i hi]

/-- Taking what was meant beside a range keeps the agreement, also where what was meant agrees less:
in granules of one byte there is nothing beside a range. -/
lemma edged {granule : ℕ} (h : AgreeOff (fun i => granule ≠ 1 ∧ spared i) a b)
    (hmeant : AgreeOff spared x y) (offset length : ℕ) :
    AgreeOff (fun i => granule ≠ 1 ∧ spared i) (a.edged x granule offset length)
      (b.edged y granule offset length) := by
  refine ⟨by rw [size_edged, size_edged, h.1], fun i hi => ?_⟩
  by_cases hone : granule = 1
  · subst hone
    rw [edged_of_not_beside (not_beside_one _ _), edged_of_not_beside (not_beside_one _ _)]
    exact h.2 i hi
  · have hi' : x.getD i 0 = y.getD i 0 := by
      rw [Array.getD_eq_getD_getElem?, Array.getD_eq_getD_getElem?,
        hmeant.2 i fun hs => hi ⟨hone, hs⟩]
    rw [getElem?_edged, getElem?_edged, h.1, h.2 i hi, hi']

end Bytes.AgreeOff

/-- Related options are both there or both missing. -/
lemma rel_cases {α β : Type} {R : α → β → Prop} {a : Option α} {b : Option β}
    (h : Option.Rel R a b) :
    (∃ x y, a = some x ∧ b = some y ∧ R x y) ∨ (a = none ∧ b = none) := by
  cases h with
  | some h => exact .inl ⟨_, _, rfl, rfl, h⟩
  | none => exact .inr ⟨rfl, rfl⟩

/-- Related options stay related under functions that keep the relation. -/
lemma rel_map {α β α' β' : Type} {R : α → β → Prop} {R' : α' → β' → Prop} {f : α → α'}
    {g : β → β'} {a : Option α} {b : Option β} (h : Option.Rel R a b)
    (hf : ∀ x y, R x y → R' (f x) (g y)) : Option.Rel R' (a.map f) (b.map g) := by
  cases h with
  | some h => exact .some (hf _ _ h)
  | none => exact .none

lemma rel_mono {α β : Type} {R R' : α → β → Prop} {a : Option α} {b : Option β}
    (h : Option.Rel R a b) (hR : ∀ x y, R x y → R' x y) : Option.Rel R' a b := by
  cases h with
  | some h => exact .some (hR _ _ h)
  | none => exact .none

/-- Plain buffers of one shape that agree in all bytes but the spared ones. -/
structure PlainBuffer.AgreeOff (spared : ℕ → ℕ → Prop) (a b : PlainBuffer) : Prop where
  size : a.size = b.size
  slots : ∀ slot, Option.Rel (Bytes.AgreeOff (spared slot)) a.slots[slot]? b.slots[slot]?

namespace PlainBuffer.AgreeOff

variable {spared : ℕ → ℕ → Prop} {a b x y : PlainBuffer}

lemma refl (spared : ℕ → ℕ → Prop) (a : PlainBuffer) : AgreeOff spared a a := by
  refine ⟨rfl, fun slot => ?_⟩
  cases a.slots[slot]? with
  | none => exact .none
  | some bytes => exact .some (.refl _ _)

lemma length_eq (h : AgreeOff spared a b) : a.slots.length = b.slots.length := by
  have hnone : ∀ slot : ℕ, a.slots[slot]? = none ↔ b.slots[slot]? = none := by
    intro slot
    rcases rel_cases (h.slots slot) with ⟨u, v, hu, hv, -⟩ | ⟨hu, hv⟩
    · rw [hu, hv]
      exact iff_of_false (by simp) (by simp)
    · exact iff_of_true hu hv
  simp only [List.getElem?_eq_none_iff] at hnone
  exact le_antisymm ((hnone b.slots.length).mpr le_rfl) ((hnone a.slots.length).mp le_rfl)

/-- Changing one slot of both in a way that keeps the agreement keeps it. -/
lemma modify (h : AgreeOff spared a b) (active : ℕ) {f g : Bytes → Bytes}
    (hfg : ∀ u v, Bytes.AgreeOff (spared active) u v → Bytes.AgreeOff (spared active) (f u) (g v)) :
    AgreeOff spared ⟨a.size, a.slots.modify active f⟩ ⟨b.size, b.slots.modify active g⟩ := by
  refine ⟨h.size, fun slot => ?_⟩
  dsimp only
  rw [List.getElem?_modify, List.getElem?_modify]
  refine rel_map (h.slots slot) fun u v huv => ?_
  split
  · rename_i heq
    subst heq
    exact hfg u v huv
  · exact huv

lemma accepts_iff (h : AgreeOff spared a b) (offset : ℤ) (data : Option Bytes) (length : ℤ) :
    a.Accepts offset data length ↔ b.Accepts offset data length := by
  rw [Accepts, Accepts, h.size]

lemma patch (h : AgreeOff spared a b) (serial : FrameSerial) (offset length : ℕ) (data : Bytes) :
    AgreeOff spared (a.patch serial offset length data) (b.patch serial offset length data) := by
  rw [PlainBuffer.patch, PlainBuffer.patch, h.length_eq]
  exact h.modify _ fun u v huv => huv.patched offset length data

lemma edged {granule : ℕ} (h : AgreeOff (fun slot i => granule ≠ 1 ∧ spared slot i) a b)
    (hmeant : AgreeOff spared x y) (serial : FrameSerial) (offset length : ℕ) :
    AgreeOff (fun slot i => granule ≠ 1 ∧ spared slot i) (a.edged x serial granule offset length)
      (b.edged y serial granule offset length) := by
  rw [PlainBuffer.edged, PlainBuffer.edged, h.length_eq]
  refine h.modify _ fun u v huv => huv.edged ?_ offset length
  rw [List.getD_eq_getElem?_getD, List.getD_eq_getElem?_getD]
  rcases rel_cases (hmeant.slots (serial.count.toNat % b.slots.length)) with
    ⟨u', v', hu, hv, hagree⟩ | ⟨hu, hv⟩
  · rw [hu, hv]
    exact hagree
  · rw [hu, hv]
    exact .refl _ _

lemma mono {spared' : ℕ → ℕ → Prop} (h : AgreeOff spared a b)
    (hspared : ∀ slot i, spared slot i → spared' slot i) : AgreeOff spared' a b :=
  ⟨h.size, fun slot => rel_mono (h.slots slot) fun _ _ huv => huv.mono (hspared slot)⟩

/-- A patched buffer agrees with what it was off the range. -/
lemma of_patch (b : PlainBuffer) (serial : FrameSerial) (offset length : ℕ) (data : Bytes) :
    AgreeOff (fun slot i => slot = serial.count.toNat % b.slots.length ∧ offset ≤ i ∧
      i < offset + length) (b.patch serial offset length data) b := by
  refine ⟨rfl, fun slot => ?_⟩
  rw [PlainBuffer.patch, List.getElem?_modify]
  cases b.slots[slot]? with
  | none => exact .none
  | some bytes =>
    refine .some ?_
    split
    · rename_i heq
      refine ⟨Bytes.size_patched _ _ _ _, fun i hi => ?_⟩
      rw [Bytes.getElem?_patched, if_neg fun h => hi ⟨heq.symm, h.1, h.2.1⟩]
    · exact .refl _ _

end PlainBuffer.AgreeOff

/-- Hosts' buffers that agree in all bytes but the spared ones. -/
def PlainBuffers.AgreeOff (spared : BufferHandle → ℕ → ℕ → Prop) (m m' : PlainBuffers) : Prop :=
  ∀ handle, Option.Rel (PlainBuffer.AgreeOff (spared handle)) (m handle) (m' handle)

namespace PlainBuffers.AgreeOff

variable {spared : BufferHandle → ℕ → ℕ → Prop} {m m' x x' : PlainBuffers}

lemma refl (spared : BufferHandle → ℕ → ℕ → Prop) (m : PlainBuffers) : AgreeOff spared m m := by
  intro handle
  cases m handle with
  | none => exact .none
  | some b => exact .some (.refl _ _)

lemma update (h : AgreeOff spared m m') (handle : BufferHandle) {b b' : Option PlainBuffer}
    (hb : Option.Rel (PlainBuffer.AgreeOff (spared handle)) b b') :
    AgreeOff spared (Function.update m handle b) (Function.update m' handle b') := by
  intro handle'
  rw [Function.update_apply, Function.update_apply]
  split
  · rename_i heq
    subst heq
    exact hb
  · exact h handle'

/-- Every operation keeps the agreement. -/
lemma perform (h : AgreeOff spared m m') (serial : FrameSerial) (op : Op)
    (answer : Except Fault Reply) :
    AgreeOff spared (m.perform serial op answer) (m'.perform serial op answer) := by
  rw [PlainBuffers.perform.eq_def, PlainBuffers.perform.eq_def]
  split
  · exact h.update _ (.some (.refl _ _))
  · refine h.update _ (rel_map (h _) fun a b hab => ?_)
    split
    · rename_i haccepts
      rw [if_pos ((hab.accepts_iff _ _ _).mp haccepts)]
      exact hab.patch _ _ _ _
    · rename_i hnot
      rw [if_neg (mt (hab.accepts_iff _ _ _).mpr hnot)]
      exact hab
  · exact h.update _ .none
  · exact h

end PlainBuffers.AgreeOff

/-- Buffers that were meant to hold the same but for the spared bytes, and do hold the same but for
them; in granules of one byte, in these too. -/
structure HeldBuffers.AgreeOff (granule : ℕ) (spared : BufferHandle → ℕ → ℕ → Prop)
    (b b' : HeldBuffers) : Prop where
  meant : b.meant.AgreeOff spared b'.meant
  held : b.held.AgreeOff (fun handle slot i => granule ≠ 1 ∧ spared handle slot i) b'.held

namespace HeldBuffers.AgreeOff

variable {granule : ℕ} {spared : BufferHandle → ℕ → ℕ → Prop} {b b' : HeldBuffers}

lemma edged (h : AgreeOff granule spared b b') (serial : FrameSerial) (handle : BufferHandle)
    (offset length : ℕ) :
    (b.edged granule serial handle offset length).AgreeOff
      (fun handle slot i => granule ≠ 1 ∧ spared handle slot i)
      (b'.edged granule serial handle offset length) := by
  refine h.held.update handle ?_
  rcases rel_cases (h.held handle) with ⟨a, a', ha, ha', hheld⟩ | ⟨ha, ha'⟩
  · rw [ha, ha']
    exact rel_map (h.meant handle) fun x y hxy => hheld.edged hxy serial offset length
  · rw [ha, ha']
    exact .none

/-- Every operation keeps the agreement. -/
lemma perform (h : AgreeOff granule spared b b') (serial : FrameSerial) (op : Op)
    (answer : Except Fault Reply) :
    AgreeOff granule spared (b.perform granule serial op answer)
      (b'.perform granule serial op answer) := by
  refine ⟨h.meant.perform serial op answer, ?_⟩
  rw [HeldBuffers.perform.eq_def, HeldBuffers.perform.eq_def]
  dsimp only
  split
  · exact h.held
  · exact (h.edged _ _ _ _).perform _ _ _
  · exact h.held.perform _ _ _

/-- No run widens what two buffers differ in. -/
theorem run {δ α P D : Type} [Device δ P D] [Adjustable δ α] (h : AgreeOff granule spared b b')
    (steps : List (Step α)) (c : Context δ P D) :
    AgreeOff granule spared (HeldBuffers.run granule steps c b)
      (HeldBuffers.run granule steps c b') := by
  induction steps generalizing c b b' with
  | nil => exact h
  | cons step steps ih =>
    refine ih ?_ (step.apply c)
    cases step with
    | perform op => exact h.perform c.serial op _
    | adjust change => exact h
    | setUi _ | setHost _ => exact h

end HeldBuffers.AgreeOff

/-! ### Failed updates -/

/-- The bytes that an accepted update is to write. -/
def PlainBuffers.Covers (m : PlainBuffers) (serial : FrameSerial) (handle : BufferHandle)
    (offset : ℤ) (data : Option Bytes) (length : ℤ) (handle' : BufferHandle) (slot i : ℕ) : Prop :=
  handle' = handle ∧ ∃ b, m handle = some b ∧ b.Accepts offset data length ∧
    slot = serial.count.toNat % b.slots.length ∧ offset.toNat ≤ i ∧
      i < offset.toNat + length.toNat

/-- An update changes the bytes that it is to write, and no others. -/
lemma PlainBuffers.AgreeOff.of_update (m : PlainBuffers) (serial : FrameSerial)
    (handle : BufferHandle) (offset : ℤ) (data : Option Bytes) (length : ℤ)
    (answer : Except Fault Reply) :
    AgreeOff (m.Covers serial handle offset data length)
      (m.perform serial (.updateBuffer handle offset data length) answer) m := by
  by_cases haccepted : ∃ b, m handle = some b ∧ b.Accepts offset data length
  · obtain ⟨b, hb, haccepts⟩ := haccepted
    rw [perform_update_accepted hb haccepts]
    intro handle'
    rw [Function.update_apply]
    split
    · rename_i heq
      subst heq
      rw [hb]
      have hpatch := PlainBuffer.AgreeOff.of_patch b serial offset.toNat length.toNat
        (data.getD #[])
      exact .some (hpatch.mono fun slot i h => ⟨rfl, b, hb, haccepts, h⟩)
    · exact refl _ m handle'
  · rw [perform_update_refused haccepted]
    exact refl _ m

/-- A failed update changes what was meant where it was to write, and nothing that is held. -/
lemma HeldBuffers.AgreeOff.of_failed (granule : ℕ) (b : HeldBuffers) (serial : FrameSerial)
    (handle : BufferHandle) (offset : ℤ) (data : Option Bytes) (length : ℤ) (fault : Fault) :
    AgreeOff granule (b.meant.Covers serial handle offset data length)
      (b.perform granule serial (.updateBuffer handle offset data length) (.error fault)) b :=
  ⟨.of_update b.meant serial handle offset data length (.error fault), .refl _ _⟩

/-- Slots of buffers that agree off spared bytes. -/
lemma PlainBuffers.AgreeOff.slot {spared : BufferHandle → ℕ → ℕ → Prop} {m m' : PlainBuffers}
    (h : AgreeOff spared m m') (handle : BufferHandle) (slot : ℕ) :
    Option.Rel (Bytes.AgreeOff (spared handle slot)) (m.slot handle slot)
      (m'.slot handle slot) := by
  rw [PlainBuffers.slot, PlainBuffers.slot]
  rcases rel_cases (h handle) with ⟨a, b, ha, hb, hab⟩ | ⟨ha, hb⟩
  · rw [ha, hb]
    exact hab.slots slot
  · rw [ha, hb]
    exact .none

/-- **A failed update is contained.** Take any run on a device in host memory that copies in
granules of any power of two, whatever failed in it, and an update after it that fails for whatever
reason. Without that update, every run from there on reads the buffers that `b` tells of. The failed
update changes nothing that is read. After it every run, whatever fails in it, reads the buffers to
which it was never made, but for the bytes that it was to write; and where the granule is one byte,
or the update was not accepted, in these too. -/
theorem failed_update_contained (config : Config) (ui : UiThread) (d : FaultyDevice)
    (hpow : d.PowerAligned) (before : List (Step Arming)) (handle : BufferHandle) (offset : ℤ)
    (data : Option Bytes) (length : ℤ) (fault : Fault)
    (hfailed : (Op.apply (.updateBuffer handle offset data length)
      (Step.run before (.ofDevice config ui d))).1 = .error fault) :
    let c₀ : HostContext FaultyDevice := .ofDevice config ui d
    let c := Step.run before c₀
    let c' := (Op.apply (.updateBuffer handle offset data length) c).2
    let granule := d.heap.granule
    let b := HeldBuffers.run granule before c₀ .empty
    (∀ steps handle' slot, ((Step.run steps c).readSlot handle' slot).toOption =
      (HeldBuffers.run granule steps c b).held.slot handle' slot) ∧
    (∀ handle' slot,
      (c'.readSlot handle' slot).toOption = (c.readSlot handle' slot).toOption) ∧
    (∀ steps handle' slot, Option.Rel
      (Bytes.AgreeOff fun i =>
        granule ≠ 1 ∧ b.meant.Covers c.serial handle offset data length handle' slot i)
      ((Step.run steps c').readSlot handle' slot).toOption
      ((HeldBuffers.run granule steps c' b).held.slot handle' slot)) := by
  intro c₀ c c' granule b
  have hH := Step.run_holds before (Context.holds_ofDevice hpow config ui [])
  -- The failed update is one more step, answered with its fault.
  have hstep : (c'.traced ([] ++ Step.trace before c₀ ++
      Op.exchanges (.updateBuffer handle offset data length) c)).Holds granule
        (b.perform granule c.serial (.updateBuffer handle offset data length) (.error fault)) := by
    have happly := Step.apply_holds (.perform (.updateBuffer handle offset data length)) hH
    rw [Step.apply_traced] at happly
    rw [← hfailed]
    exact happly
  have hagree := HeldBuffers.AgreeOff.of_failed granule b c.serial handle offset data length fault
  refine ⟨fun steps handle' slot => ?_, fun handle' slot => ?_, fun steps handle' slot => ?_⟩
  · exact (Step.run_holds steps hH).readSlot_eq handle' slot
  · rw [hstep.readSlot_eq handle' slot, hH.readSlot_eq handle' slot]
    rfl
  · rw [(Step.run_holds steps hstep).readSlot_eq handle' slot]
    exact (hagree.run steps c').held.slot handle' slot

/-- A run that makes a static buffer of four bytes and arms a failure for the next write. -/
def armedWriteRun : List (Step Arming) := [.perform (.createBuffer 0 4 (some #[1, 2, 3, 4])),
  .adjust ⟨.writeBuffer, 1, .resource (.text "armed")⟩]

/-- On a device that copies in granules of four, a failed update of the first byte is not seen, and
after an update of the second byte only the first can differ. -/
theorem failed_update_contained_armedWriteRun :
    (FaultyDevice.ofAlignment (2 ^ 2)).PowerAligned ∧
      let c : HostContext FaultyDevice :=
        Step.run armedWriteRun (.ofDevice {} .stopped (.ofAlignment (2 ^ 2)))
      let c' := (Op.apply (.updateBuffer .first 0 (some #[9]) 1) c).2
      (Op.apply (.updateBuffer .first 0 (some #[9]) 1) c).1 =
          .error (.ofDevice (.resource (.text "armed"))) ∧
        (c'.readSlot .first 0).toOption = some #[1, 2, 3, 4] ∧
        Option.Rel (Bytes.AgreeOff (· = 0))
          ((Step.run [.perform (.updateBuffer .first 1 (some #[8]) 1)] c').readSlot
            .first 0).toOption
          (some #[1, 8, 3, 4]) := by
  have hpow := FaultyDevice.powerAligned_ofAlignment (k := 2) (by decide)
  have hfailed : (Op.apply (.updateBuffer .first 0 (some #[9]) 1) (Step.run armedWriteRun
      (.ofDevice {} .stopped (.ofAlignment (2 ^ 2)) : HostContext FaultyDevice))).1 =
        .error (.ofDevice (.resource (.text "armed"))) := by decide +kernel
  obtain ⟨-, hkept, hlater⟩ := failed_update_contained {} .stopped _ hpow armedWriteRun .first 0
    (some #[9]) 1 _ hfailed
  refine ⟨hpow, hfailed, ?_, ?_⟩
  · rw [hkept]
    decide +kernel
  · have hslot := hlater [.perform (.updateBuffer .first 1 (some #[8]) 1)] .first 0
    have hmodel : (HeldBuffers.run (2 ^ 2) [Step.perform (.updateBuffer .first 1 (some #[8]) 1)]
        (Op.apply (.updateBuffer .first 0 (some #[9]) 1) (Step.run armedWriteRun
          (.ofDevice {} .stopped (.ofAlignment (2 ^ 2)) : HostContext FaultyDevice))).2
        (HeldBuffers.run (2 ^ 2) armedWriteRun
          (.ofDevice {} .stopped (.ofAlignment (2 ^ 2)) : HostContext FaultyDevice)
          .empty)).held.slot .first 0 = some #[1, 8, 3, 4] := by decide +kernel
    rw [← hmodel]
    refine rel_mono hslot fun x y hxy => hxy.mono fun i hi => ?_
    obtain ⟨-, -, -, -, -, -, -, hlt⟩ := hi
    exact Nat.lt_one_iff.mp hlt

/-- The bytes that a failed update was to write can come to be read: where the update of the first
byte fails and the second byte is updated after it, the first byte is written too. Without the
failed update it stays. -/
theorem failed_update_resurfaces :
    let c : HostContext FaultyDevice :=
      Step.run armedWriteRun (.ofDevice {} .stopped (.ofAlignment (2 ^ 2)))
    let c' := (Op.apply (.updateBuffer .first 0 (some #[9]) 1) c).2
    let later : List (Step Arming) := [.perform (.updateBuffer .first 1 (some #[8]) 1)]
    let disarmed : Step Arming := .adjust ⟨.writeBuffer, 0, .resource (.text "armed")⟩
    (Op.apply (.updateBuffer .first 0 (some #[9]) 1) c).1 =
        .error (.ofDevice (.resource (.text "armed"))) ∧
      (Step.trace later c').map (·.accepted) = [true] ∧
      (Step.run later c').readSlot .first 0 = .ok #[9, 8, 3, 4] ∧
      (Step.trace later (disarmed.apply c)).map (·.accepted) = [true] ∧
      (Step.run later (disarmed.apply c)).readSlot .first 0 = .ok #[1, 8, 3, 4] := by
  decide +kernel

end RenderBridge
