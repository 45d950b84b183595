import Mathlib.Tactic
import RenderBridge.Context.Process
/-!
What a process does with its attempts to open contexts.

* `Process.Comes`, `Takes`, `step_takes`: what a move can do.
* `Process.Exclusive`, `run_exclusive`: the claim that holds the place is the claim of one attempt.
* `Process.Takes.claims_of_change` and its like: in which moves an attempt comes to hold the place,
  is refused, gives its claim back, or has its context dropped.
* `Process.run_open`, `run_close`: an attempt that **nobody comes between** does what a session
  does.
-/

set_option autoImplicit false

namespace RenderBridge

variable {ι ω : Type} {δ P D : ι → Type}

namespace Stage

variable {δ P D : Type}

/-- The failure that an attempt is going to end with. -/
def fault : Stage δ P D → Option Fault
  | failing _ _ fault => some fault
  | _ => none

/-- A context that was dropped is on its way out. -/
def IsClosing : Stage δ P D → Prop
  | closing .. => True
  | _ => False

/-- An attempt that has ended, or whose context has. -/
def IsOver : Stage δ P D → Prop
  | failed _ | closed => True
  | _ => False

/-- How many steps an attempt has before it, until its context is open or all is over. -/
def remaining : Stage δ P D → ℕ
  | waiting => 6
  | claimed _ => 5
  | sized _ => 4
  | built .. => 3
  | failing _ (some _) _ | closing _ (some _) => 2
  | failing _ none _ | closing _ none => 1
  | opened .. | failed _ | closed => 0

lemma isOver_or_opened_of_remaining {stage : Stage δ P D} (h : stage.remaining = 0) :
    stage.IsOver ∨ ∃ k c, stage = .opened k c := by
  cases stage with
  | opened k c => exact .inr ⟨k, c, rfl⟩
  | failed | closed => exact .inl trivial
  | failing k d => cases d <;> cases h
  | closing k d => cases d <;> cases h
  | _ => cases h

lemma claim_of_isOver {stage : Stage δ P D} (h : stage.IsOver) : stage.claim = none := by
  cases stage with
  | failed | closed => rfl
  | _ => cases h

end Stage

/-- The move is a step of an attempt. -/
def Move.Advances [DecidableEq ι] (i : ι) : Move δ P D → Bool
  | advance j _ => j = i
  | _ => false

namespace Process

variable [DecidableEq ι]

/-- An attempt holds the place by a claim. -/
def Holds (s : Process ω δ P D) (i : ι) (claim : ℕ) : Prop := (s.stage i).claim = some claim

omit [DecidableEq ι] in
lemma holds_of_stage {s : Process ω δ P D} {i : ι} {stage : Stage (δ i) (P i) (D i)} {k : ℕ}
    (hstage : s.stage i = stage) (hclaim : stage.claim = some k) : s.Holds i k := by
  rw [Holds, hstage, hclaim]

section

variable (s : Process ω δ P D) (i : ι) (stage : Stage (δ i) (P i) (D i))

@[simp]
lemma stage_put_self : (s.put i stage).stage i = stage := by simp [put]

lemma stage_put_of_ne {j : ι} (h : j ≠ i) : (s.put i stage).stage j = s.stage j := by
  simp [put, h]

variable {s i stage}

/-- Who holds the place changes for one attempt only. -/
lemma holds_put {j : ι} {k : ℕ} :
    (s.put i stage).Holds j k ↔ (j = i ∧ stage.claim = some k) ∨ (j ≠ i ∧ s.Holds j k) := by
  by_cases h : j = i
  · subst h
    simp [Holds]
  · simp [Holds, h, stage_put_of_ne]

end

/-! ### One holder at a time -/

/-- The place is held by the claim of one attempt, and by nobody where there is none. Its number was
issued. No attempt is going to fail as if the place were held. -/
structure Exclusive (s : Process ω δ P D) : Prop where
  holder : ∀ k, s.slot.holder = some k ↔ ∃ i, s.Holds i k
  unique : ∀ i j k, s.Holds i k → s.Holds j k → i = j
  below : ∀ k, s.slot.holder = some k → k < s.slot.nextClaim
  fault : ∀ i fault, (s.stage i).fault = some fault → fault ≠ .alreadyOpen

lemma fault_put {s : Process ω δ P D} {i : ι} {stage : Stage (δ i) (P i) (D i)}
    (hs : ∀ j fault, (s.stage j).fault = some fault → fault ≠ .alreadyOpen)
    (hfault : ∀ fault, stage.fault = some fault → fault ≠ .alreadyOpen) (j : ι) (fault : Fault)
    (hj : ((s.put i stage).stage j).fault = some fault) : fault ≠ .alreadyOpen := by
  by_cases hji : j = i
  · subst hji
    rw [stage_put_self] at hj
    exact hfault fault hj
  · rw [stage_put_of_ne s i stage hji] at hj
    exact hs j fault hj

namespace Exclusive

variable {s : Process ω δ P D} {i : ι} {stage : Stage (δ i) (P i) (D i)}

omit [DecidableEq ι] in
lemma fresh (world : ω) : Exclusive ({ world } : Process ω δ P D) where
  holder k := by
    refine ⟨fun h => ?_, ?_⟩
    · cases h
    · rintro ⟨i, ⟨⟩⟩
  unique i j k h := by cases h
  below k h := by cases h
  fault i fault h := by cases h

/-- The place is free, and an attempt claims it. -/
lemma claim (h : s.Exclusive) (hfree : s.slot.holder = none) (world : ω) : Exclusive ({ s with
    slot := ⟨some s.slot.nextClaim, s.slot.nextClaim + 1⟩, world }.put i
      (.claimed s.slot.nextClaim)) := by
  have hnone : ∀ j k, ¬ s.Holds j k := by
    intro j k hholds
    cases hfree.symm.trans ((h.holder k).mpr ⟨j, hholds⟩)
  refine ⟨fun k => ⟨fun hk => ⟨i, holds_put.mpr (.inl ⟨rfl, hk⟩)⟩, ?_⟩, ?_, ?_, ?_⟩
  · rintro ⟨j, hj⟩
    rcases holds_put.mp hj with ⟨-, hk⟩ | ⟨-, hj⟩
    · exact hk
    · exact absurd hj (hnone j k)
  · intro j j' k hj hj'
    rcases holds_put.mp hj with ⟨rfl, -⟩ | ⟨-, hj⟩
    · rcases holds_put.mp hj' with ⟨rfl, -⟩ | ⟨-, hj'⟩
      · rfl
      · exact absurd hj' (hnone j' k)
    · exact absurd hj (hnone j k)
  · rintro k ⟨⟩
    exact Nat.lt_succ_self _
  · exact fault_put h.fault fun fault hfault => by cases hfault

/-- An attempt goes on with what it holds. -/
lemma keep (h : s.Exclusive) (world : ω) (hkept : stage.claim = (s.stage i).claim)
    (hfault : ∀ fault, stage.fault = some fault → fault ≠ .alreadyOpen) :
    Exclusive ({ s with world }.put i stage) := by
  have hholds : ∀ j k, ({ s with world }.put i stage).Holds j k ↔ s.Holds j k := by
    intro j k
    rw [holds_put, hkept]
    constructor
    · rintro (⟨rfl, hj⟩ | ⟨-, hj⟩) <;> exact hj
    · intro hj
      by_cases hji : j = i
      · subst hji
        exact .inl ⟨rfl, hj⟩
      · exact .inr ⟨hji, hj⟩
  refine ⟨fun k => ?_, fun j j' k hj hj' => ?_, h.below, fault_put h.fault hfault⟩
  · simp only [hholds]
    exact h.holder k
  · exact h.unique j j' k ((hholds j k).mp hj) ((hholds j' k).mp hj')

/-- An attempt gives back what it holds. -/
lemma release (h : s.Exclusive) (world : ω) {k : ℕ} (hholds : s.Holds i k)
    (hnone : stage.claim = none) (hfault : stage.fault = none) :
    Exclusive ({ s with slot := s.slot.release k, world }.put i stage) := by
  have hfree : (s.slot.release k).holder = none := by
    rw [Slot.release, if_pos ((h.holder k).mpr ⟨i, hholds⟩)]
  have hothers : ∀ j k', ¬ ({ s with slot := s.slot.release k, world }.put i stage).Holds j k' := by
    intro j k' hj
    rcases holds_put.mp hj with ⟨rfl, hk'⟩ | ⟨hji, hj⟩
    · cases hnone.symm.trans hk'
    · have hheld := (h.holder k').mpr ⟨j, hj⟩
      rw [(h.holder k).mpr ⟨i, hholds⟩] at hheld
      cases hheld
      exact hji (h.unique j i k hj hholds)
  refine ⟨fun k' => ⟨fun hk' => ?_, fun ⟨j, hj⟩ => absurd hj (hothers j k')⟩, ?_, ?_, ?_⟩
  · cases hfree.symm.trans hk'
  · exact fun j j' k' hj => absurd hj (hothers j k')
  · intro k' hk'
    cases hfree.symm.trans hk'
  · exact fault_put h.fault fun fault hsome => by cases hfault.symm.trans hsome

end Exclusive

variable [∀ i, Device (δ i) (P i) (D i)] {attempt : ∀ i, Attempt ω (δ i)}

/-! ### What a move does -/

/-- What a move can make of an attempt, with the place afterwards: it claims the place or is
refused; it goes on with its claim; it gives the claim back and ends. Its context is used or
dropped. -/
inductive Comes (s : Process ω δ P D) (i : ι) :
    Move δ P D → Stage (δ i) (P i) (D i) → Slot → Prop
  | claims {ui : UiThread} (waiting : s.stage i = .waiting) (free : s.slot.holder = none) :
      Comes s i (.advance i ui) (.claimed s.slot.nextClaim)
        ⟨some s.slot.nextClaim, s.slot.nextClaim + 1⟩
  | refused {ui : UiThread} {k : ℕ} (waiting : s.stage i = .waiting)
      (held : s.slot.holder = some k) : Comes s i (.advance i ui) (.failed .alreadyOpen) s.slot
  | goesOn {ui : UiThread} {k : ℕ} {stage : Stage (δ i) (P i) (D i)} (holds : s.Holds i k)
      (kept : stage.claim = some k)
      (fault : ∀ fault, stage.fault = some fault →
        fault ≠ .alreadyOpen ∨ (s.stage i).fault = some fault)
      (closing : stage.IsClosing → (s.stage i).IsClosing)
      (nearer : stage.remaining < (s.stage i).remaining) :
      Comes s i (.advance i ui) stage s.slot
  | fails {ui : UiThread} {k : ℕ} {fault : Fault} (failing : s.stage i = .failing k none fault) :
      Comes s i (.advance i ui) (.failed fault) (s.slot.release k)
  | closes {ui : UiThread} {k : ℕ} (closing : s.stage i = .closing k none) :
      Comes s i (.advance i ui) .closed (s.slot.release k)
  | uses {k : ℕ} {c : Context (δ i) (P i) (D i)}
      {change : Context (δ i) (P i) (D i) → Context (δ i) (P i) (D i)}
      (opened : s.stage i = .opened k c) : Comes s i (.use i change) (.opened k (change c)) s.slot
  | drops {ui : UiThread} {k : ℕ} {c : Context (δ i) (P i) (D i)}
      (opened : s.stage i = .opened k c) :
      Comes s i (.drop i ui) (.closing k (some { c with ui }.close)) s.slot

/-- What a move can do: something with one attempt, or nothing where nothing is left to do. -/
inductive Takes (s : Process ω δ P D) (move : Move δ P D) : Process ω δ P D → Prop
  | idles (done : ∀ i, move.Advances i → (s.stage i).remaining = 0) : Takes s move s
  | comes {i : ι} {stage : Stage (δ i) (P i) (D i)} {slot : Slot}
      (comes : s.Comes i move stage slot) (world : ω) :
      Takes s move ({ s with slot, world }.put i stage)

lemma run_ui_ne_alreadyOpen {α : Type} {ui : UiThread} {job : String → α} {fault : Fault}
    (h : ui.run job = .error fault) : fault ≠ .alreadyOpen := by
  rintro rfl
  cases ui <;> cases h

section

variable {s : Process ω δ P D} {i : ι} {k : ℕ}

omit [DecidableEq ι] in
/-- An attempt goes on, with no reason to fail. -/
lemma Comes.going (ui : UiThread) {stage : Stage (δ i) (P i) (D i)} (hholds : s.Holds i k)
    (hkept : stage.claim = some k) (hnone : stage.fault = none) (hopen : ¬ stage.IsClosing)
    (hnearer : stage.remaining < (s.stage i).remaining) :
    s.Comes i (.advance i ui) stage s.slot :=
  .goesOn hholds hkept (fun _ hfault => by cases hnone.symm.trans hfault) (fun h => absurd h hopen)
    hnearer

omit [DecidableEq ι] in
/-- An attempt begins to fail, but not because the place is taken. -/
lemma Comes.failing (ui : UiThread) {device : Option (δ i)} {fault : Fault}
    (hholds : s.Holds i k) (hne : fault ≠ .alreadyOpen)
    (hnearer : (Stage.failing k device fault : Stage (δ i) (P i) (D i)).remaining <
      (s.stage i).remaining) :
    s.Comes i (.advance i ui) (.failing k device fault) s.slot := by
  refine .goesOn hholds rfl (fun fault' hfault => .inl ?_) (fun h => absurd h id) hnearer
  cases hfault
  exact hne

lemma Takes.over (ui : UiThread) (hzero : (s.stage i).remaining = 0) :
    s.Takes (.advance i ui) s := by
  refine .idles fun j hj => ?_
  obtain rfl : i = j := of_decide_eq_true hj
  exact hzero

end

lemma advance_takes (i : ι) (ui : UiThread) (s : Process ω δ P D) :
    s.Takes (.advance i ui) (s.advance attempt i ui) := by
  -- One case for each stage, and in it one for each way in which the step ends.
  rw [advance]
  split
  · rename_i hstage
    cases hheld : s.slot.holder with
    | none =>
      rw [Slot.claim, hheld]
      exact .comes (.claims hstage hheld) _
    | some k =>
      rw [Slot.claim, hheld]
      exact .comes (.refused hstage hheld) _
  · rename_i k hstage
    have hholds : s.Holds i k := holds_of_stage hstage rfl
    split
    · exact .comes (.failing ui hholds (by simp) (by simp [hstage, Stage.remaining])) _
    · exact .comes (.going ui hholds rfl rfl id (by simp [hstage, Stage.remaining])) _
  · rename_i k hstage
    have hholds : s.Holds i k := holds_of_stage hstage rfl
    split
    · rename_i hrun
      exact .comes (.failing ui hholds (run_ui_ne_alreadyOpen hrun)
        (by simp [hstage, Stage.remaining])) _
    · exact .comes (.failing ui hholds (by simp) (by simp [hstage, Stage.remaining])) _
    · exact .comes (.going ui hholds rfl rfl id (by simp [hstage, Stage.remaining])) _
  · rename_i k device hstage
    have hholds : s.Holds i k := holds_of_stage hstage rfl
    split
    · exact .comes (.going ui hholds rfl rfl id (by simp [hstage, Stage.remaining])) _
    · exact .comes (.failing ui hholds (by simp) (by simp [hstage, Stage.remaining])) _
  · rename_i k device fault hstage
    refine .comes (.goesOn (holds_of_stage hstage rfl) rfl (fun fault' hfault => .inr ?_)
      (fun h => absurd h id) ?_) _
    · rw [hstage]
      exact hfault
    · rw [hstage]
      exact Nat.lt_succ_self _
  · rename_i k fault hstage
    exact .comes (.fails hstage) _
  · rename_i k device hstage
    refine .comes (.goesOn (holds_of_stage hstage rfl) rfl (fun fault' hfault => ?_)
      (fun _ => ?_) ?_) _
    · cases hfault
    · rw [hstage]
      trivial
    · rw [hstage]
      exact Nat.lt_succ_self _
  · rename_i k hstage
    exact .comes (.closes hstage) _
  · rename_i hstage
    exact Takes.over ui (by rw [hstage]; rfl)
  · rename_i hstage
    exact Takes.over ui (by rw [hstage]; rfl)
  · rename_i hstage
    exact Takes.over ui (by rw [hstage]; rfl)

/-- What a move can do. -/
theorem step_takes (move : Move δ P D) (s : Process ω δ P D) :
    s.Takes move (s.step attempt move) := by
  cases move with
  | advance i ui => exact advance_takes i ui s
  | use i change =>
    rw [step]
    split
    · rename_i hopened
      exact .comes (.uses hopened) _
    · exact .idles nofun
  | drop i ui =>
    rw [step]
    split
    · rename_i hopened
      exact .comes (.drops hopened) _
    · exact .idles nofun

/-- Every move keeps the place to one holder. -/
theorem Takes.exclusive {s s' : Process ω δ P D} {move : Move δ P D} (h : s.Takes move s')
    (hs : s.Exclusive) : s'.Exclusive := by
  cases h with
  | idles => exact hs
  | comes h world =>
    cases h with
    | claims waiting free => exact hs.claim free world
    | refused waiting held =>
      refine hs.keep world (by rw [waiting]; rfl) fun fault hfault => ?_
      cases hfault
    | goesOn holds kept fault closing =>
      refine hs.keep world (kept.trans holds.symm) fun fault' hfault => ?_
      rcases fault fault' hfault with hne | hold
      · exact hne
      · exact hs.fault _ fault' hold
    | fails failing => exact hs.release world (holds_of_stage failing rfl) rfl rfl
    | closes closing => exact hs.release world (holds_of_stage closing rfl) rfl rfl
    | uses opened =>
      refine hs.keep world (by rw [opened]; rfl) fun fault hfault => ?_
      cases hfault
    | drops opened =>
      refine hs.keep world (by rw [opened]; rfl) fun fault hfault => ?_
      cases hfault

/-- Every run keeps the place to one holder. -/
theorem run_exclusive (moves : List (Move δ P D)) {s : Process ω δ P D} (hs : s.Exclusive) :
    (run attempt moves s).Exclusive := by
  induction moves generalizing s with
  | nil => exact hs
  | cons move moves ih => exact ih ((step_takes move s).exclusive hs)

lemma run_append (moves moves' : List (Move δ P D)) (s : Process ω δ P D) :
    run attempt (moves ++ moves') s = run attempt moves' (run attempt moves s) := List.foldl_append

/-! ### What a move changes -/

section

variable {s s' : Process ω δ P D} {move : Move δ P D} {i : ι} {k : ℕ}

/-- What a move makes of one of the attempts, if anything. -/
lemma Takes.stage_cases (h : s.Takes move s') (i : ι) :
    s'.stage i = s.stage i ∨
      ∃ stage slot, s'.stage i = stage ∧ s'.slot = slot ∧ s.Comes i move stage slot := by
  cases h with
  | idles => exact .inl rfl
  | @comes j stage slot hcomes world =>
    by_cases hij : i = j
    · subst hij
      exact .inr ⟨stage, slot, stage_put_self .., rfl, hcomes⟩
    · exact .inl (stage_put_of_ne _ j stage hij)

/-- An attempt comes to hold the place by claiming it while it is free. -/
lemma Takes.claims_of_change (h : s.Takes move s') (hbefore : ¬ s.Holds i k)
    (hafter : s'.Holds i k) :
    ∃ ui, move = .advance i ui ∧ s.stage i = .waiting ∧ s.slot.holder = none := by
  rw [Holds] at hbefore hafter
  rcases h.stage_cases i with heq | ⟨stage, slot, hstage, -, hcomes⟩
  · exact absurd (heq ▸ hafter) hbefore
  · rw [hstage] at hafter
    cases hcomes with
    | claims waiting free => exact ⟨_, rfl, waiting, free⟩
    | refused => cases hafter
    | goesOn holds kept => exact absurd (holds.trans (kept.symm.trans hafter)) hbefore
    | fails => cases hafter
    | closes => cases hafter
    | uses opened => exact absurd ((holds_of_stage opened rfl).trans hafter) hbefore
    | drops opened => exact absurd ((holds_of_stage opened rfl).trans hafter) hbefore

/-- An attempt ends as if the place were held where it is held. -/
lemma Takes.refused_of_change (h : s.Takes move s') (hs : s.Exclusive)
    (hbefore : s.stage i ≠ .failed .alreadyOpen) (hafter : s'.stage i = .failed .alreadyOpen) :
    ∃ ui, move = .advance i ui ∧ s.stage i = .waiting ∧ ∃ j k, s.Holds j k := by
  rcases h.stage_cases i with heq | ⟨stage, slot, hstage, -, hcomes⟩
  · exact absurd (heq.symm.trans hafter) hbefore
  · obtain rfl : stage = .failed .alreadyOpen := hstage.symm.trans hafter
    cases hcomes with
    | refused waiting held =>
      obtain ⟨j, hj⟩ := (hs.holder _).mp held
      exact ⟨_, rfl, waiting, j, _, hj⟩
    | goesOn holds kept => cases kept
    | fails failing =>
      refine absurd rfl (hs.fault i .alreadyOpen ?_)
      rw [failing]
      rfl

/-- An attempt ends otherwise by giving its claim back. -/
lemma Takes.releases_of_change (h : s.Takes move s') (hbefore : ¬ (s.stage i).IsOver)
    (hafter : (s'.stage i).IsOver) (hne : s'.stage i ≠ .failed .alreadyOpen) :
    ∃ ui k, move = .advance i ui ∧ s.Holds i k ∧ s'.slot = s.slot.release k := by
  rcases h.stage_cases i with heq | ⟨stage, slot, hstage, hslot, hcomes⟩
  · exact absurd (heq ▸ hafter) hbefore
  · rw [hstage] at hafter hne
    cases hcomes with
    | claims => cases hafter
    | refused => exact absurd rfl hne
    | goesOn holds kept => cases (Stage.claim_of_isOver hafter).symm.trans kept
    | fails failing => exact ⟨_, _, rfl, holds_of_stage failing rfl, hslot⟩
    | closes closing => exact ⟨_, _, rfl, holds_of_stage closing rfl, hslot⟩
    | uses => cases hafter
    | drops => cases hafter

/-- A context is on its way out after it was dropped and its surface parted from. -/
lemma Takes.drops_of_change (h : s.Takes move s') (hbefore : ¬ ∃ d, s.stage i = .closing k d)
    (hafter : ∃ d, s'.stage i = .closing k d) :
    ∃ ui c, move = .drop i ui ∧ s.stage i = .opened k c ∧
      s'.stage i = .closing k (some { c with ui }.close) := by
  obtain ⟨d, hafter⟩ := hafter
  rcases h.stage_cases i with heq | ⟨stage, slot, hstage, -, hcomes⟩
  · exact absurd ⟨d, heq.symm.trans hafter⟩ hbefore
  · obtain rfl : stage = .closing k d := hstage.symm.trans hafter
    cases hcomes with
    | goesOn holds kept fault closing =>
      exfalso
      have hclosing := closing trivial
      rw [Holds, ← kept] at holds
      cases hbefore' : s.stage i with
      | closing k' d' =>
        rw [hbefore'] at holds
        cases holds
        exact hbefore ⟨d', hbefore'⟩
      | _ =>
        rw [hbefore'] at hclosing
        cases hclosing
    | drops opened => exact ⟨_, _, rfl, opened, hafter⟩

/-- What changes the place: a claim while it is free, or the end of an attempt or of a context. -/
lemma Takes.slot_cases (h : s.Takes move s') (hslot : s'.slot ≠ s.slot) :
    ∃ i ui k, move = .advance i ui ∧
      ((s.stage i = .waiting ∧ s.slot.holder = none ∧ s'.slot = ⟨some k, k + 1⟩ ∧ s'.Holds i k) ∨
        (s.Holds i k ∧ s'.slot = s.slot.release k ∧
          ((∃ fault, s.stage i = .failing k none fault) ∨ s.stage i = .closing k none))) := by
  cases h with
  | idles => exact absurd rfl hslot
  | comes hcomes world =>
    cases hcomes with
    | claims waiting free =>
      exact ⟨_, _, _, rfl, .inl ⟨waiting, free, rfl, by rw [Holds, stage_put_self]; rfl⟩⟩
    | fails failing =>
      exact ⟨_, _, _, rfl, .inr ⟨holds_of_stage failing rfl, rfl, .inl ⟨_, failing⟩⟩⟩
    | closes closing =>
      exact ⟨_, _, _, rfl, .inr ⟨holds_of_stage closing rfl, rfl, .inr closing⟩⟩
    | _ => exact absurd rfl hslot

omit [DecidableEq ι] in
/-- Something happens only with an attempt that has not begun, or that holds the place. -/
lemma Comes.begins {stage : Stage (δ i) (P i) (D i)} {slot : Slot}
    (h : s.Comes i move stage slot) : s.stage i = .waiting ∨ ∃ k, s.Holds i k := by
  cases h with
  | claims waiting => exact .inl waiting
  | refused waiting => exact .inl waiting
  | goesOn holds => exact .inr ⟨_, holds⟩
  | fails failing => exact .inr ⟨_, holds_of_stage failing rfl⟩
  | closes closing => exact .inr ⟨_, holds_of_stage closing rfl⟩
  | uses opened => exact .inr ⟨_, holds_of_stage opened rfl⟩
  | drops opened => exact .inr ⟨_, holds_of_stage opened rfl⟩

/-- An attempt that is over stays as it ended. -/
lemma Takes.stage_of_isOver (h : s.Takes move s') (hover : (s.stage i).IsOver) :
    s'.stage i = s.stage i := by
  rcases h.stage_cases i with heq | ⟨stage, slot, -, -, hcomes⟩
  · exact heq
  · rcases hcomes.begins with hwait | ⟨k, hholds⟩
    · rw [hwait] at hover
      cases hover
    · cases (Stage.claim_of_isOver hover).symm.trans hholds

/-- An attempt comes nearer to its end with each of its steps, and stays as near as it is with all
other moves, as long as its context is not dropped. -/
lemma Takes.remaining_le (h : s.Takes move s') (hdrop : ∀ ui, move ≠ .drop i ui) :
    (s'.stage i).remaining ≤ (s.stage i).remaining - if move.Advances i then 1 else 0 := by
  cases h with
  | idles done =>
    split
    · rename_i hadvances
      rw [done i hadvances]
    · exact le_rfl
  | @comes j stage slot hcomes world =>
    by_cases hij : i = j
    · subst hij
      rw [stage_put_self]
      cases hcomes with
      | claims waiting =>
        rw [waiting, Move.Advances, decide_eq_true rfl]
        exact le_rfl
      | goesOn _ _ _ _ nearer =>
        rw [Move.Advances, decide_eq_true rfl]
        exact Nat.le_sub_one_of_lt nearer
      | drops => exact absurd rfl (hdrop _)
      | _ => exact Nat.zero_le _
    · have hother : move.Advances i = false := by
        cases hcomes with
        | uses => rfl
        | drops => rfl
        | _ => exact decide_eq_false (Ne.symm hij)
      rw [stage_put_of_ne _ j stage hij, hother]
      exact le_rfl

/-- Numbers are issued one after the other. -/
lemma Takes.nextClaim_le (h : s.Takes move s') : s.slot.nextClaim ≤ s'.slot.nextClaim := by
  have hrelease : ∀ k, s.slot.nextClaim ≤ (s.slot.release k).nextClaim := by
    intro k
    rw [Slot.release]
    split <;> exact le_rfl
  cases h with
  | idles => exact le_rfl
  | comes hcomes world =>
    cases hcomes with
    | claims => exact Nat.le_succ _
    | fails => exact hrelease _
    | closes => exact hrelease _
    | _ => exact le_rfl

lemma step_of_held (hwait : s.stage i = .waiting) (hheld : s.slot.holder = some k)
    (ui : UiThread) : s.step attempt (.advance i ui) = s.put i (.failed .alreadyOpen) := by
  rw [step, advance, hwait]
  dsimp only
  rw [Slot.claim, hheld]

lemma step_of_free (hwait : s.stage i = .waiting) (hfree : s.slot.holder = none)
    (ui : UiThread) :
    s.step attempt (.advance i ui) =
      { s with slot := ⟨some s.slot.nextClaim, s.slot.nextClaim + 1⟩ }.put i
        (.claimed s.slot.nextClaim) := by
  rw [step, advance, hwait]
  dsimp only
  rw [Slot.claim, hfree]

end

section

variable {s : Process ω δ P D} {i : ι}

lemma run_stage_of_isOver (moves : List (Move δ P D)) (hover : (s.stage i).IsOver) :
    (run attempt moves s).stage i = s.stage i := by
  induction moves generalizing s with
  | nil => rfl
  | cons move moves ih =>
    have hstep : (s.step attempt move).stage i = s.stage i :=
      (step_takes move s).stage_of_isOver hover
    exact (ih (hstep ▸ hover)).trans hstep

/-- An attempt that takes its steps comes to its end, whatever happens between them. -/
lemma run_remaining_le {moves : List (Move δ P D)} (hdrop : ∀ ui, .drop i ui ∉ moves) :
    ((run attempt moves s).stage i).remaining ≤
      (s.stage i).remaining - moves.countP (·.Advances i) := by
  induction moves generalizing s with
  | nil => exact le_rfl
  | cons move moves ih =>
    have hstep : ((s.step attempt move).stage i).remaining ≤ _ :=
      (step_takes move s).remaining_le fun ui hmove => hdrop ui (hmove ▸ List.mem_cons_self)
    have hrest := ih (s := s.step attempt move) fun ui hmem =>
      hdrop ui (List.mem_cons_of_mem _ hmem)
    rw [List.countP_cons]
    change ((run attempt moves (s.step attempt move)).stage i).remaining ≤ _
    omega

lemma run_nextClaim_le (moves : List (Move δ P D)) (s : Process ω δ P D) :
    s.slot.nextClaim ≤ (run attempt moves s).slot.nextClaim := by
  induction moves generalizing s with
  | nil => exact le_rfl
  | cons move moves ih => exact (step_takes move s).nextClaim_le.trans (ih _)

end

/-! ### Without others -/

section

variable {s : Process ω δ P D} {i : ι}

/-- What an attempt that holds the place comes to when nobody comes between. -/
lemma run_of_claimed {k : ℕ} (hclaimed : s.stage i = .claimed k) (ui : UiThread) :
    run attempt (List.replicate 5 (.advance i ui)) s =
      match Context.openWith (attempt i).config ui (attempt i).factory s.world with
      | .ok (c : Context (δ i) (P i) (D i)) => s.put i (.opened k c)
      | .error (fault, world) =>
        { s with slot := s.slot.release k, world }.put i (.failed fault) := by
  rw [Context.openWith]
  simp only [run, List.replicate, List.foldl_cons, List.foldl_nil, step]
  by_cases hsize : (attempt i).config.width ≤ 0 ∨ (attempt i).config.height ≤ 0
  · simp [advance, hclaimed, put, hsize]
  · have hsized : s.advance attempt i ui = s.put i (.sized k) := by
      rw [advance, hclaimed]
      dsimp only
      rw [if_neg hsize]
    rw [if_neg hsize, hsized]
    cases hrun : ui.run fun _ => (attempt i).factory.build (attempt i).config s.world with
    | error fault => simp [advance, put, hrun]
    | ok built =>
      cases built with
      | error failure => simp [advance, put, hrun]
      | ok device =>
        rcases hresize : (Device.resizeTargets (attempt i).config.width.toNat
          (attempt i).config.height.toNat device : Except DeviceFault Unit × δ i) with
            ⟨_ | _, device'⟩ <;> simp [advance, put, hrun, hresize]

/-- An attempt that nobody comes between opens a context as a session does, or fails as a session
does. -/
theorem run_open (hwait : s.stage i = .waiting) (ui : UiThread) :
    let session : Session ω (δ i) (P i) (D i) := { slot := s.slot, ui, world := s.world }
    let out := session.openContext (attempt i).config (attempt i).factory
    ∃ stage, run attempt (List.replicate 6 (.advance i ui)) s =
        { s with slot := out.2.slot, world := out.2.world }.put i stage ∧
      ((∃ fault, out.1 = .error fault ∧ stage = .failed fault) ∨
        ∃ live, out.1 = .ok () ∧ out.2.live = some live ∧
          stage = .opened live.claim live.context) := by
  intro session out
  have hsplit : run attempt (List.replicate 6 (.advance i ui)) s =
      run attempt (List.replicate 5 (.advance i ui)) (s.step attempt (.advance i ui)) := rfl
  have hout : out = session.openContext (attempt i).config (attempt i).factory := rfl
  rw [Session.openContext, Slot.claim] at hout
  cases hheld : s.slot.holder with
  | some k =>
    simp only [session, hheld] at hout
    rw [hsplit, step_of_held hwait hheld, hout]
    refine ⟨_, ?_, .inl ⟨_, rfl, rfl⟩⟩
    simp [run, List.replicate, step, advance, put]
  | none =>
    rw [hsplit, step_of_free hwait hheld, run_of_claimed (stage_put_self ..)]
    simp only [session, hheld] at hout
    cases hopen : (Context.openWith (attempt i).config ui (attempt i).factory s.world :
        Except (Fault × ω) (Context (δ i) (P i) (D i))) with
    | ok c =>
      rw [hopen] at hout
      rw [hout]
      exact ⟨_, by simp [put, hopen], .inr ⟨_, rfl, rfl, rfl⟩⟩
    | error failure =>
      rw [hopen] at hout
      rw [hout]
      exact ⟨_, by simp [put, hopen], .inl ⟨_, rfl, rfl⟩⟩

/-- A context that is dropped while nobody comes between ends as that of a session does. -/
theorem run_close {k : ℕ} {c : Context (δ i) (P i) (D i)} (hopened : s.stage i = .opened k c)
    (ui : UiThread) :
    let session : Session ω (δ i) (P i) (D i) :=
      { slot := s.slot, ui, live := some ⟨k, { c with ui }⟩, world := s.world }
    let after := session.closeContext (attempt i).factory
    run attempt [.drop i ui, .advance i ui, .advance i ui] s =
      { s with slot := after.slot, world := after.world }.put i .closed := by
  simp [run, step, advance, hopened, put, Session.closeContext]

end

end Process

end RenderBridge
