import RenderBridge.Device.Faulty
import RenderBridge.Proofs.Context.Process
/-!
One context per process, however attempts to open one overlap.

* `Process.Happens`, `happens_of_change`: what holds in the end and not in the beginning came to
  hold in some move.
* `Context.close_eq`: what the end of a context asks of its device.
* `Process.claimed_of_holds`, `refused_iff`, `released_of_isOver`, `dropped_of_closing`: what
  happened before an attempt stands where it does.
* `Process.one_context_per_process`: **the place has one holder at a time**, and everyone who leaves
  gives back what they claimed.
-/

set_option autoImplicit false

namespace RenderBridge

/-- A context that ends parts its device from the surface on the UI thread, where there is one that
runs the job. -/
lemma Context.close_eq {δ P D : Type} [Device δ P D] (c : Context δ P D) (ui : UiThread) :
    { c with ui }.close = match ui with
      | .running name => Device.detachSurface (P := P) (D := D) name c.device
      | .stopped | .dropping => c.device := by
  cases ui <;> rfl

variable {ι ω : Type} {δ P D : ι → Type}

namespace Process

variable [DecidableEq ι] [∀ i, Device (δ i) (P i) (D i)] {attempt : ∀ i, Attempt ω (δ i)}

/-! ### What happened -/

variable (attempt) in
/-- In a run a move is made in a state with a property. -/
def Happens (moves : List (Move δ P D)) (s : Process ω δ P D) (move : Move δ P D)
    (Q : Process ω δ P D → Prop) : Prop :=
  ∃ before after, moves = before ++ move :: after ∧ Q (run attempt before s)

section

variable {s : Process ω δ P D} {moves : List (Move δ P D)}

/-- What holds in the end and not in the beginning came to hold in some move. -/
theorem happens_of_change {Q : Process ω δ P D → Prop} (hstart : ¬ Q s)
    (hend : Q (run attempt moves s)) :
    ∃ move, Happens attempt moves s move fun t => ¬ Q t ∧ Q (t.step attempt move) := by
  induction moves generalizing s with
  | nil => exact absurd hend hstart
  | cons move moves ih =>
    by_cases hstep : Q (s.step attempt move)
    · exact ⟨move, [], moves, rfl, hstart, hstep⟩
    · obtain ⟨move', before, after, rfl, hchange⟩ := ih hstep hend
      exact ⟨move', move :: before, after, rfl, hchange⟩

end

/-! ### Runs of a process -/

section

variable {s₀ : Process ω δ P D} {moves : List (Move δ P D)} {i : ι} {k : ℕ}

/-- What an attempt holds it has claimed. -/
lemma claimed_of_holds (hstart : ∀ i k, ¬ s₀.Holds i k) (h : (run attempt moves s₀).Holds i k) :
    ∃ ui, Happens attempt moves s₀ (.advance i ui) fun t =>
      t.stage i = .waiting ∧ t.slot.holder = none ∧
        (t.step attempt (.advance i ui)).Holds i k := by
  obtain ⟨move, before, after, hmoves, hnot, hholds⟩ :=
    happens_of_change (Q := fun t => t.Holds i k) (hstart i k) h
  obtain ⟨ui, rfl, hwait, hfree⟩ := (step_takes move _).claims_of_change hnot hholds
  exact ⟨ui, before, after, hmoves, hwait, hfree, hholds⟩

/-- An attempt fails as if the place were held exactly where it is held when it is claimed. -/
lemma refused_iff (hs : s₀.Exclusive) (hstart : s₀.stage i = .waiting) :
    (run attempt moves s₀).stage i = .failed .alreadyOpen ↔
      ∃ ui, Happens attempt moves s₀ (.advance i ui) fun t =>
        t.stage i = .waiting ∧ ∃ j k, t.Holds j k := by
  constructor
  · intro h
    obtain ⟨move, before, after, hmoves, hnot, hfailed⟩ :=
      happens_of_change (Q := fun t => t.stage i = .failed .alreadyOpen)
        (by rw [hstart]; exact nofun) h
    obtain ⟨ui, rfl, hwait, hheld⟩ :=
      (step_takes move _).refused_of_change (run_exclusive before hs) hnot hfailed
    exact ⟨ui, before, after, hmoves, hwait, hheld⟩
  · rintro ⟨ui, before, after, rfl, hwait, j, k, hholds⟩
    have hheld := ((run_exclusive before hs).holder k).mpr ⟨j, hholds⟩
    have hfailed : ((run attempt before s₀).step attempt (.advance i ui)).stage i =
        .failed .alreadyOpen := by
      rw [step_of_held hwait hheld, stage_put_self]
    rw [run_append]
    exact (run_stage_of_isOver after (by rw [hfailed]; trivial)).trans hfailed

/-- An attempt that ended, and not because the place was held, gave its claim back. -/
lemma released_of_isOver (hs : s₀.Exclusive) (hstart : s₀.stage i = .waiting)
    (hover : ((run attempt moves s₀).stage i).IsOver)
    (hne : (run attempt moves s₀).stage i ≠ .failed .alreadyOpen) :
    ∃ ui k, Happens attempt moves s₀ (.advance i ui) fun t =>
      t.Holds i k ∧ t.slot.holder = some k ∧
        (t.step attempt (.advance i ui)).slot.holder = none := by
  obtain ⟨move, before, after, hmoves, hnot, hended, hfailed⟩ :=
    happens_of_change (Q := fun t => (t.stage i).IsOver ∧ t.stage i ≠ .failed .alreadyOpen)
      (by rw [hstart]; exact fun h => h.1) ⟨hover, hne⟩
  have hbefore : ¬ ((run attempt before s₀).stage i).IsOver := by
    intro h
    refine hnot ⟨h, fun heq => hfailed ?_⟩
    exact ((step_takes move _).stage_of_isOver h).trans heq
  obtain ⟨ui, k, rfl, hholds, hslot⟩ :=
    (step_takes move _).releases_of_change hbefore hended hfailed
  have hheld := ((run_exclusive before hs).holder k).mpr ⟨i, hholds⟩
  refine ⟨ui, k, before, after, hmoves, hholds, hheld, ?_⟩
  rw [hslot, Slot.release, if_pos hheld]

/-- A context that is on its way out was dropped, and its surface parted from. -/
lemma dropped_of_closing (hstart : s₀.stage i = .waiting) {d : Option (δ i)}
    (h : (run attempt moves s₀).stage i = .closing k d) :
    ∃ ui, Happens attempt moves s₀ (.drop i ui) fun t => ∃ c, t.stage i = .opened k c ∧
      (t.step attempt (.drop i ui)).stage i = .closing k (some (match ui with
        | .running name => Device.detachSurface (P := P i) (D := D i) name c.device
        | .stopped | .dropping => c.device)) := by
  obtain ⟨move, before, after, hmoves, hnot, hclosing⟩ :=
    happens_of_change (Q := fun t => ∃ d, t.stage i = .closing k d)
      (by rw [hstart]; exact nofun) ⟨d, h⟩
  obtain ⟨ui, c, rfl, hopened, hclosed⟩ := (step_takes move _).drops_of_change hnot hclosing
  rw [c.close_eq] at hclosed
  exact ⟨ui, before, after, hmoves, c, hopened, hclosed⟩

end

/-- **One context per process.** Attempts to open contexts overlap in any way: each has a
configuration and a factory of its own, the UI thread may be there or not at each of their steps,
and their contexts are used and dropped at any time. After any moves

* at most one attempt holds the place, with a claim that it made itself while the place was free;
* an attempt that begins now is refused where the place is held, and else claims it, under a number
  that nobody had before. A refusal changes nothing else: no size is checked, no factory is run, and
  the holder and the world are left as they are;
* an attempt has failed with `alreadyOpen` exactly if the place was held when it began;
* an attempt that failed otherwise, and a context that has ended, gave back a claim that held the
  place, which was free after that;
* the place changes hands in no other way than these: it is claimed while it is free, or given back
  by the very attempt that holds it, when that fails or when its context goes. The context was
  dropped before: its device was parted from the surface on the UI thread, or went as it was where
  that thread took no job;
* nobody is stuck: an attempt that takes its steps has its context open or is over after six of them
  at most, and two are left after a drop, whatever happens between. -/
theorem one_context_per_process (attempt : ∀ i, Attempt ω (δ i)) (world : ω)
    (moves : List (Move δ P D)) :
    let start : Process ω δ P D := { world }
    let s := run attempt moves start
    (∀ i j k l, s.Holds i k → s.Holds j l → i = j ∧ k = l) ∧
    (∀ k, s.slot.holder = some k ↔ ∃ i, s.Holds i k) ∧
    (∀ i k, s.Holds i k → ∃ ui, Happens attempt moves start (.advance i ui) fun t =>
      t.stage i = .waiting ∧ t.slot.holder = none ∧
        (t.step attempt (.advance i ui)).Holds i k) ∧
    (∀ i ui, s.stage i = .waiting →
      ((∃ j k, s.Holds j k) →
        s.step attempt (.advance i ui) = s.put i (.failed .alreadyOpen)) ∧
      ((¬ ∃ j k, s.Holds j k) → ∃ k,
        s.step attempt (.advance i ui) = { s with slot := ⟨some k, k + 1⟩ }.put i (.claimed k) ∧
          ∀ before, before <+: moves → ∀ j, ¬ (run attempt before start).Holds j k)) ∧
    (∀ i, s.stage i = .failed .alreadyOpen ↔
      ∃ ui, Happens attempt moves start (.advance i ui) fun t =>
        t.stage i = .waiting ∧ ∃ j k, t.Holds j k) ∧
    (∀ i, (s.stage i).IsOver → s.stage i ≠ .failed .alreadyOpen →
      ∃ ui k, Happens attempt moves start (.advance i ui) fun t =>
        t.Holds i k ∧ t.slot.holder = some k ∧
          (t.step attempt (.advance i ui)).slot.holder = none) ∧
    (∀ move, (s.step attempt move).slot ≠ s.slot → ∃ i ui k, move = .advance i ui ∧
      ((s.stage i = .waiting ∧ s.slot.holder = none ∧
          (s.step attempt move).slot = ⟨some k, k + 1⟩ ∧ (s.step attempt move).Holds i k) ∨
        (s.Holds i k ∧ (s.step attempt move).slot = { s.slot with holder := none } ∧
          ((∃ fault, s.stage i = .failing k none fault) ∨
            s.stage i = .closing k none ∧
              ∃ ui, Happens attempt moves start (.drop i ui) fun t => ∃ c, t.stage i = .opened k c ∧
                (t.step attempt (.drop i ui)).stage i = .closing k (some (match ui with
                  | .running name => Device.detachSurface (P := P i) (D := D i) name c.device
                  | .stopped | .dropping => c.device)))))) ∧
    (∀ i later, (∀ ui, .drop i ui ∉ later) →
      (s.stage i).remaining ≤ later.countP (·.Advances i) →
        ((run attempt later s).stage i).IsOver ∨
          ∃ k c, (run attempt later s).stage i = .opened k c) := by
  intro start s
  have hstart : start.Exclusive := .fresh world
  have hs : s.Exclusive := run_exclusive moves hstart
  have hslot : ∀ {i k}, s.Holds i k → s.slot.holder = some k := fun hi =>
    (hs.holder _).mpr ⟨_, hi⟩
  refine ⟨fun i j k l hi hj => ?_, hs.holder, fun i k => claimed_of_holds ?_,
    fun i ui hwait => ⟨?_, fun hnone => ?_⟩, fun i => refused_iff hstart rfl,
    fun i => released_of_isOver hstart rfl, fun move hchanged => ?_, fun i later hdrop hle => ?_⟩
  · obtain rfl : k = l := Option.some.inj ((hslot hi).symm.trans (hslot hj))
    exact ⟨hs.unique i j k hi hj, rfl⟩
  · rintro i k ⟨⟩
  · rintro ⟨j, k, hholds⟩
    exact step_of_held hwait (hslot hholds) ui
  · have hfree : s.slot.holder = none := by
      cases hheld : s.slot.holder with
      | none => rfl
      | some k => exact absurd (((hs.holder k).mp hheld).imp fun j hj => ⟨k, hj⟩) hnone
    refine ⟨_, step_of_free hwait hfree ui, ?_⟩
    rintro before ⟨after, rfl⟩ j hj
    have hbefore : (run attempt before start).Exclusive := run_exclusive before hstart
    have hlt := hbefore.below _ ((hbefore.holder _).mpr ⟨j, hj⟩)
    have hle : (run attempt before start).slot.nextClaim ≤ s.slot.nextClaim := by
      rw [show s = _ from run_append ..]
      exact run_nextClaim_le after _
    exact absurd hlt (Nat.not_lt_of_le hle)
  · obtain ⟨i, ui, k, hmove, hcases⟩ := (step_takes move s).slot_cases hchanged
    refine ⟨i, ui, k, hmove, hcases.imp_right ?_⟩
    rintro ⟨hholds, hrelease, hending⟩
    rw [Slot.release, if_pos (hslot hholds)] at hrelease
    refine ⟨hholds, hrelease, hending.imp_right fun hclosing => ⟨hclosing, ?_⟩⟩
    exact dropped_of_closing rfl hclosing
  · refine Stage.isOver_or_opened_of_remaining ?_
    have hend : ((run attempt later s).stage i).remaining ≤ _ := run_remaining_le hdrop
    omega

/-- Three attempts on devices in host memory. The size of the first one is empty. What is left of a
device is the name of the thread on which it was parted from its surface. -/
def threeAttempts (i : Fin 3) : Attempt (Option String) FaultyDevice where
  config := { width := i.val }
  factory := ⟨fun _ _ => .ok {}, fun d => d.memory.surface.detachedOn⟩

/-- The first two of them overlap, and the third begins after the first has failed. Its context is
dropped and its device has gone. -/
def threeMoves : List (Move (fun _ : Fin 3 => FaultyDevice) (fun _ => CompiledPipeline)
    (fun _ => CompiledDepthStencil)) :=
  [0, 1, 0, 0, 2, 2, 2, 2].map (fun i => .advance i (.running "main")) ++
    [.drop 2 (.running "ui"), .advance 2 .stopped]

/-- The second attempt came too early. The third one has the place to itself; it gives the place
back after its device was parted from the surface on the UI thread. -/
theorem one_context_per_process_threeAttempts :
    let s := run threeAttempts threeMoves { world := none }
    s.slot = ⟨some 2, 3⟩ ∧ s.world = some "ui" ∧
      (∃ ui, Happens threeAttempts threeMoves { world := none } (.advance 1 ui) fun t =>
        t.stage 1 = .waiting ∧ ∃ j k, t.Holds j k) ∧
      (∀ i k, s.Holds i k → i = 2 ∧ k = 2) ∧
      (s.step threeAttempts (.advance 2 .stopped)).slot = ⟨none, 3⟩ ∧
      ∃ ui, Happens threeAttempts threeMoves { world := none } (.drop 2 ui) fun t =>
        ∃ c, t.stage 2 = .opened 2 c ∧
          (t.step threeAttempts (.drop 2 ui)).stage 2 = .closing 2 (some (match ui with
            | .running name => Device.detachSurface (P := CompiledPipeline)
                (D := CompiledDepthStencil) name c.device
            | .stopped | .dropping => c.device)) := by
  intro s
  obtain ⟨honly, -, -, -, hrefused, -, hchanges, -⟩ :=
    one_context_per_process threeAttempts none threeMoves
  have hheld : s.Holds 2 2 := rfl
  have hclosing : s.stage 2 = .closing 2 none := rfl
  have hslot : s.slot = ⟨some 2, 3⟩ := by decide +kernel
  have hfreed : (s.step threeAttempts (.advance 2 .stopped)).slot = ⟨none, 3⟩ := by decide +kernel
  refine ⟨hslot, rfl, (hrefused 1).mp rfl, fun i k hi => honly i 2 k 2 hi hheld, hfreed, ?_⟩
  obtain ⟨i, ui, k, hmove, hcases⟩ := hchanges (.advance 2 .stopped) (by rw [hfreed, hslot]; decide)
  cases hmove
  rcases hcases with ⟨hwaiting, -⟩ | ⟨-, -, ⟨fault, hfailing⟩ | ⟨hlast, hdropped⟩⟩
  · cases hclosing.symm.trans hwaiting
  · cases hclosing.symm.trans hfailing
  · cases hclosing.symm.trans hlast
    exact hdropped

end Process

end RenderBridge
