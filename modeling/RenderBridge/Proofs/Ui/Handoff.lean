import Mathlib.Tactic
import RenderBridge.Ui.Handoff
/-!
The order of calls and jobs in a hand-off, whatever moves the threads and the pump make.

* `Handoff.Takes`, `Handoff.step_takes`: **what a move can do**.
* `Handoff.Numbered`: every call has a number of its own, and is sent and returns once.
* `Handoff.Queued`: jobs start in the order in which they were sent, one at a time.
-/

set_option autoImplicit false

namespace RenderBridge

variable {ι β : Type}

/-! ### What happened -/

namespace HandoffEvent

/-- The call that an event is about. -/
def call : HandoffEvent ι β → ℕ
  | begun _ parcel => parcel.call
  | sent call | started call | finished call _ | discarded call | returned _ call _ => call

/-- A caller did something. -/
def isCaller : HandoffEvent ι β → Bool
  | begun .. | sent _ | returned .. => true
  | _ => false

/-- A job ran. -/
def isJob : HandoffEvent ι β → Bool
  | started _ | finished .. => true
  | _ => false

/-- A call returned. -/
def isAnswer : HandoffEvent ι β → Bool
  | returned .. => true
  | _ => false

def sent? : HandoffEvent ι β → Option ℕ
  | sent call => some call
  | _ => none

def started? : HandoffEvent ι β → Option ℕ
  | started call => some call
  | _ => none

def discarded? : HandoffEvent ι β → Option ℕ
  | discarded call => some call
  | _ => none

/-- The value with which the job of a call finished. -/
def valueOf (call : ℕ) : HandoffEvent ι β → Option β
  | finished n value => if n = call then some value else none
  | _ => none

/-- What an event on the UI thread of this name tells of what was before it: a value is that of the
job of a call, and a call that was begun returns with the value of its own job. -/
def Follows (thread : String) (before : List (HandoffEvent ι β)) : HandoffEvent ι β → Prop
  | finished n value => ∃ i job, begun i ⟨n, job⟩ ∈ before ∧ value = job thread
  | returned i n (.ok value) =>
      finished n value ∈ before ∧ ∃ job, begun i ⟨n, job⟩ ∈ before
  | returned i n (.error _) => ∃ job, begun i ⟨n, job⟩ ∈ before
  | _ => True

end HandoffEvent

open HandoffEvent

/-- Jobs that ran to their end, one after the other. -/
def ranInTurn (done : List (ℕ × β)) : List (HandoffEvent ι β) :=
  done.flatMap fun d => [.started d.1, .finished d.1 d.2]

/-- Every event follows on what was before it. -/
def Consequent (thread : String) (log : List (HandoffEvent ι β)) : Prop :=
  ∀ before event after, log = before ++ event :: after → event.Follows thread before

section Log

variable {thread : String} {log : List (HandoffEvent ι β)} {e event : HandoffEvent ι β}

lemma mem_concat {α : Type} {l : List α} {a b : α} : a ∈ l ++ [b] ↔ a ∈ l ∨ a = b := by
  rw [List.mem_append, List.mem_singleton]

lemma filterMap_concat_none {α γ : Type} {f : α → Option γ} {l : List α} {a : α}
    (h : f a = none) : (l ++ [a]).filterMap f = l.filterMap f := by
  rw [List.filterMap_append, List.filterMap_cons_none h, List.filterMap_nil, List.append_nil]

lemma filterMap_concat_some {α γ : Type} {f : α → Option γ} {l : List α} {a : α} {c : γ}
    (h : f a = some c) : (l ++ [a]).filterMap f = l.filterMap f ++ [c] := by
  rw [List.filterMap_append, List.filterMap_cons_some h, List.filterMap_nil]

lemma Consequent.concat (h : Consequent thread log) (he : e.Follows thread log) :
    Consequent thread (log ++ [e]) := by
  intro before event after hsplit
  rcases List.eq_nil_or_concat after with rfl | ⟨after', last, rfl⟩
  · obtain ⟨rfl, heq⟩ := List.append_inj' hsplit rfl
    cases heq
    exact he
  · rw [List.concat_eq_append, ← List.cons_append, ← List.append_assoc] at hsplit
    obtain ⟨hlog, -⟩ := List.append_inj' hsplit rfl
    exact h before event after' hlog

lemma sent?_eq_some (e : HandoffEvent ι β) (n : ℕ) : sent? e = some n ↔ e = .sent n := by
  cases e <;> simp [sent?]

lemma started?_eq_some (e : HandoffEvent ι β) (n : ℕ) : started? e = some n ↔ e = .started n := by
  cases e <;> simp [started?]

lemma discarded?_eq_some (e : HandoffEvent ι β) (n : ℕ) :
    discarded? e = some n ↔ e = .discarded n := by
  cases e <;> simp [discarded?]

/-- The calls that events of one kind are about. -/
lemma mem_filterMap_iff {f : HandoffEvent ι β → Option ℕ} {mk : ℕ → HandoffEvent ι β}
    (hf : ∀ e n, f e = some n ↔ e = mk n) {n : ℕ} : n ∈ log.filterMap f ↔ mk n ∈ log := by
  simp only [List.mem_filterMap, hf, exists_eq_right]

lemma started?_of_not_isJob (h : ¬ e.isJob = true) : started? e = none := by
  cases e <;> first | rfl | exact absurd rfl h

lemma valueOf_of_not_isJob (n : ℕ) (h : ¬ e.isJob = true) : valueOf n e = none := by
  cases e <;> first | rfl | exact absurd rfl h

lemma filter_isJob_concat (h : ¬ e.isJob = true) :
    (log ++ [e]).filter isJob = log.filter isJob := by
  rw [List.filter_append, List.filter_cons_of_neg h, List.filter_nil, List.append_nil]

/-- What is read off the events of jobs only. -/
lemma filterMap_filter_isJob {γ : Type} {f : HandoffEvent ι β → Option γ}
    (hf : ∀ {e : HandoffEvent ι β}, ¬ e.isJob = true → f e = none) :
    (log.filter isJob).filterMap f = log.filterMap f := by
  induction log with
  | nil => rfl
  | cons e log ih =>
    by_cases he : e.isJob = true
    · rw [List.filter_cons_of_pos he, List.filterMap_cons, List.filterMap_cons, ih]
    · rw [List.filter_cons_of_neg he, List.filterMap_cons_none (hf he), ih]

lemma started_ranInTurn (done : List (ℕ × β)) :
    (ranInTurn done : List (HandoffEvent ι β)).filterMap started? = done.map (·.1) := by
  induction done with
  | nil => rfl
  | cons d done ih => exact congrArg (d.1 :: ·) ih

/-- Of calls that are there once no job finishes twice. -/
lemma length_valueOf_ranInTurn {done : List (ℕ × β)} (hdone : (done.map (·.1)).Nodup) (n : ℕ) :
    ((ranInTurn done : List (HandoffEvent ι β)).filterMap (valueOf n)).length ≤
      if n ∈ done.map (·.1) then 1 else 0 := by
  induction done with
  | nil => exact Nat.zero_le _
  | cons d done ih =>
    obtain ⟨hnot, hrest⟩ := List.nodup_cons.mp hdone
    have hlength := ih hrest
    have hcons : (ranInTurn (d :: done) : List (HandoffEvent ι β)).filterMap (valueOf n) =
        (if d.1 = n then some d.2 else none).toList ++
          (ranInTurn done : List (HandoffEvent ι β)).filterMap (valueOf n) := by
      by_cases hd : d.1 = n <;> simp [ranInTurn, List.filterMap_cons, valueOf, hd]
    rw [hcons, List.length_append]
    by_cases hd : d.1 = n
    · subst hd
      rw [if_neg hnot] at hlength
      simpa using hlength
    · have hiff : n ∈ (d :: done).map (·.1) ↔ n ∈ done.map (·.1) := by
        rw [List.map_cons, List.mem_cons, or_iff_right (fun heq => hd heq.symm)]
      simp only [hiff, if_neg hd]
      simpa using hlength

/-- What follows on a part of a log follows on all of it. -/
lemma HandoffEvent.Follows.mono {before : List (HandoffEvent ι β)} (h : event.Follows thread before)
    (hsub : ∀ e ∈ before, e ∈ log) : event.Follows thread log := by
  cases event with
  | finished n value =>
    obtain ⟨i, job, hbegun, hvalue⟩ := h
    exact ⟨i, job, hsub _ hbegun, hvalue⟩
  | returned i n answer =>
    cases answer with
    | ok value =>
      obtain ⟨hfinished, job, hbegun⟩ := h
      exact ⟨hsub _ hfinished, job, hsub _ hbegun⟩
    | error fault =>
      obtain ⟨job, hbegun⟩ := h
      exact ⟨job, hsub _ hbegun⟩
  | _ => trivial

lemma Consequent.follows (h : Consequent thread log) (he : event ∈ log) :
    event.Follows thread log := by
  obtain ⟨before, after, hsplit⟩ := List.append_of_mem he
  refine (h before event after hsplit).mono fun e hmem => ?_
  rw [hsplit]
  exact List.mem_append_left _ hmem

end Log

/-! ### What a move does -/

namespace Handoff

variable [DecidableEq ι]

/-- What a move can do. -/
inductive Takes (s : Handoff ι β) : HandoffMove ι β → Handoff ι β → Prop
  | idles (move : HandoffMove ι β) : Takes s move s
  | begins {i : ι} (job : String → β) (outside : s.caller i = .outside) :
      Takes s (.call i job) (s.begin i job)
  | sends {i : ι} {parcel : Parcel β} (sending : s.caller i = .sending parcel)
      (alive : s.channel.pumpAlive = true) :
      Takes s (.advance i)
        (({ s with channel := { s.channel with waiting := s.channel.waiting ++ [parcel] } }.put i
          (.receiving parcel.call)).note (.sent parcel.call))
  | fails {i : ι} {parcel : Parcel β} (sending : s.caller i = .sending parcel)
      (gone : s.channel.pumpAlive = false) :
      Takes s (.advance i) (s.answer i parcel.call (.error (.openingFailed .uiStopped)))
  | receives {i : ι} {call : ℕ} {answer : Except Fault β}
      (receiving : s.caller i = .receiving call)
      (received : (s.reply call).receive = some answer) :
      Takes s (.advance i) (s.answer i call answer)
  | pumps (loop : PumpLoop) (idle : s.pump = .idle) (alive : s.channel.pumpAlive = true) :
      Takes s (.startPump loop) { s with pump := .looking loop }
  | rests {loop : PumpLoop} (looking : s.pump = .looking loop) :
      Takes s .pump { s with pump := .idle }
  | stops {loop : PumpLoop} (looking : s.pump = .looking loop) :
      Takes s .pump { s with pump := .idle, channel := s.channel.dropPump }
  | starts {loop : PumpLoop} {parcel : Parcel β} {rest : List (Parcel β)}
      (looking : s.pump = .looking loop) (waiting : s.channel.waiting = parcel :: rest) :
      Takes s .pump
        ({ s with
            channel := { s.channel with waiting := rest }
            pump := .running loop parcel }.note (.started parcel.call))
  | finishes {loop : PumpLoop} {parcel : Parcel β} (running : s.pump = .running loop parcel) :
      Takes s .pump
        ({ s with pump := .replying loop parcel.call (parcel.job s.thread) }.note
          (.finished parcel.call (parcel.job s.thread)))
  | replies {loop : PumpLoop} {call : ℕ} {value : β}
      (replying : s.pump = .replying loop call value) :
      Takes s .pump
        ({ s with pump := .releasing loop call }.setReply call
          { s.reply call with value := some value })
  | releases {loop : PumpLoop} {call : ℕ} (releasing : s.pump = .releasing loop call) :
      Takes s .pump
        ({ s with pump := .looking loop }.setReply call { s.reply call with jobAlive := false })
  | drops (idle : s.pump = .idle) :
      Takes s .dropPump { s with channel := s.channel.dropPump }
  | parts : Takes s .dropQueue { s with queueAlive := false }
  | discards {parcel : Parcel β} {rest : List (Parcel β)} (gone : s.channel.pumpAlive = false)
      (waiting : s.channel.waiting = parcel :: rest) :
      Takes s .discard
        (({ s with channel := { s.channel with waiting := rest } }.setReply parcel.call
          { s.reply parcel.call with jobAlive := false }).note (.discarded parcel.call))

lemma take?_cases {J : Type} (q : JobChannel J) :
    (q.waiting = [] ∧ q.take? = none) ∨
      ∃ job rest, q.waiting = job :: rest ∧ q.take? = some (job, { q with waiting := rest }) := by
  rw [JobChannel.take?]
  cases q.waiting with
  | nil => exact .inl ⟨rfl, rfl⟩
  | cons job rest => exact .inr ⟨job, rest, rfl, rfl⟩

lemma advance_takes (s : Handoff ι β) (i : ι) : s.Takes (.advance i) (s.advance i) := by
  rw [advance]
  cases hstage : s.caller i with
  | outside => exact .idles _
  | sending parcel =>
    dsimp only
    rw [JobChannel.send]
    by_cases halive : s.channel.pumpAlive
    · rw [if_pos halive]
      exact .sends hstage halive
    · rw [if_neg halive]
      exact .fails hstage (Bool.eq_false_iff.mpr halive)
  | receiving call =>
    dsimp only
    cases hreceived : (s.reply call).receive with
    | none => exact .idles _
    | some answer => exact .receives hstage hreceived

lemma pumpNext_takes (s : Handoff ι β) : s.Takes .pump s.pumpNext := by
  rw [pumpNext]
  cases hpump : s.pump with
  | idle => exact .idles _
  | looking loop =>
    dsimp only
    rcases take?_cases s.channel with ⟨-, htake⟩ | ⟨parcel, rest, hwaiting, htake⟩
    · rw [htake]
      cases loop with
      | untilEmpty => exact .rests hpump
      | untilClosed =>
        dsimp only
        split
        · exact .idles _
        · exact .stops hpump
    · rw [htake]
      exact .starts hpump hwaiting
  | running loop parcel => exact .finishes hpump
  | replying loop call value => exact .replies hpump
  | releasing loop call => exact .releases hpump

/-- What a move does. -/
theorem step_takes (s : Handoff ι β) (move : HandoffMove ι β) : s.Takes move (s.step move) := by
  cases move with
  | call i job =>
    rw [step]
    split
    · rename_i houtside
      split
      · exact .begins job houtside
      · exact .idles _
    · exact .idles _
  | advance i => exact s.advance_takes i
  | startPump loop =>
    rw [step]
    split
    · rename_i hidle
      split
      · rename_i halive
        exact .pumps loop hidle halive
      · exact .idles _
    · exact .idles _
  | pump => exact s.pumpNext_takes
  | dropPump =>
    rw [step]
    split
    · rename_i hidle
      exact .drops hidle
    · exact .idles _
  | dropQueue =>
    rw [step]
    split
    · exact .parts
    · exact .idles _
  | discard =>
    rw [step]
    split
    · exact .idles _
    · rename_i hgone
      rcases take?_cases s.channel with ⟨-, htake⟩ | ⟨parcel, rest, hwaiting, htake⟩
      · rw [htake]
        exact .idles _
      · rw [htake]
        exact .discards (Bool.eq_false_iff.mpr hgone) hwaiting

end Handoff

/-! ### Calls -/

/-- The call that a thread is in. -/
def CallerStage.call? : CallerStage β → Option ℕ
  | outside => none
  | sending parcel => some parcel.call
  | receiving call => some call

/-- A thread is in a call that it began, sent or not as the log has it, and has not returned. -/
structure CallerStage.Agrees (i : ι) (log : List (HandoffEvent ι β)) (stage : CallerStage β) :
    Prop where
  begun : ∀ n, stage.call? = some n → ∃ job, .begun i ⟨n, job⟩ ∈ log
  unreturned : ∀ n, stage.call? = some n → ∀ j answer, .returned j n answer ∉ log
  parcel : ∀ parcel, stage = .sending parcel → .begun i parcel ∈ log
  unsent : ∀ parcel, stage = .sending parcel → .sent parcel.call ∉ log
  sent : ∀ n, stage = .receiving n → .sent n ∈ log

namespace CallerStage.Agrees

variable {i : ι} {log : List (HandoffEvent ι β)} {stage : CallerStage β} {e : HandoffEvent ι β}

lemma outside (i : ι) (log : List (HandoffEvent ι β)) :
    (CallerStage.outside : CallerStage β).Agrees i log :=
  ⟨nofun, nofun, nofun, nofun, nofun⟩

/-- What another caller does, or a job, changes nothing. -/
lemma concat (h : stage.Agrees i log)
    (he : e.isCaller = true → ∀ n, stage.call? = some n → e.call ≠ n) :
    stage.Agrees i (log ++ [e]) where
  begun n hn := by
    obtain ⟨job, hbegun⟩ := h.begun n hn
    exact ⟨job, mem_concat.mpr (.inl hbegun)⟩
  unreturned n hn j answer hmem := by
    rcases mem_concat.mp hmem with hold | rfl
    · exact h.unreturned n hn j answer hold
    · exact he rfl n hn rfl
  parcel parcel hstage := mem_concat.mpr (.inl (h.parcel parcel hstage))
  unsent parcel hstage hmem := by
    rcases mem_concat.mp hmem with hold | rfl
    · exact h.unsent parcel hstage hold
    · exact he rfl parcel.call (by rw [hstage]; rfl) rfl
  sent n hstage := mem_concat.mpr (.inl (h.sent n hstage))

end CallerStage.Agrees

namespace Handoff

/-- Every call has a number of its own. Threads are in the calls that they began, and each of them
is sent once. -/
structure Numbered (s : Handoff ι β) : Prop where
  below : ∀ e ∈ s.log, e.isCaller = true → e.call < s.calls
  begun_inj : ∀ {i j p q}, .begun i p ∈ s.log → .begun j q ∈ s.log → p.call = q.call →
    i = j ∧ p = q
  callers : ∀ i, (s.caller i).Agrees i s.log
  sent_nodup : (s.log.filterMap sent?).Nodup

namespace Numbered

variable {s s' : Handoff ι β} {e : HandoffEvent ι β} {i : ι} {stage : CallerStage β} {n : ℕ}

/-- Two threads are not in one call. -/
lemma call?_ne (h : s.Numbered) (hn : (s.caller i).call? = some n) {j : ι} (hj : j ≠ i) :
    (s.caller j).call? ≠ some n := by
  intro hn'
  obtain ⟨job, hbegun⟩ := (h.callers i).begun n hn
  obtain ⟨job', hbegun'⟩ := (h.callers j).begun n hn'
  exact hj (h.begun_inj hbegun' hbegun rfl).1

/-- What is no caller's doing leaves the calls as they are. -/
lemma of_log (h : s.Numbered) (hcaller : s'.caller = s.caller) (hcalls : s'.calls = s.calls)
    (hlog : s'.log = s.log ++ [e]) (he : e.isCaller = false) : s'.Numbered where
  below e' hmem hcall := by
    rw [hlog] at hmem
    rw [hcalls]
    rcases mem_concat.mp hmem with hold | rfl
    · exact h.below e' hold hcall
    · cases he.symm.trans hcall
  begun_inj hp hq := by
    rw [hlog] at hp hq
    rcases mem_concat.mp hp with hp | rfl
    · rcases mem_concat.mp hq with hq | rfl
      · exact h.begun_inj hp hq
      · cases he
    · cases he
  callers i := by
    rw [hcaller, hlog]
    exact (h.callers i).concat fun hcall => by cases he.symm.trans hcall
  sent_nodup := by
    have hnone : sent? e = none := by
      cases e <;> first | rfl | cases he
    rw [hlog, filterMap_concat_none hnone]
    exact h.sent_nodup

/-- A new call has a new number. -/
lemma begins [DecidableEq ι] (h : s.Numbered) (i : ι) (job : String → β) :
    (s.begin i job).Numbered := by
  have hlog : (s.begin i job).log = s.log ++ [.begun i ⟨s.calls, job⟩] := rfl
  -- Nothing was said of the new number before.
  have hfresh : ∀ e ∈ s.log, e.isCaller = true → e.call ≠ s.calls := fun e hmem hcall =>
    (h.below e hmem hcall).ne
  refine ⟨fun e hmem hcall => ?_, fun {j k p q} hp hq heq => ?_, fun j => ?_, ?_⟩
  · rw [hlog] at hmem
    rcases mem_concat.mp hmem with hold | rfl
    · exact (h.below e hold hcall).trans (Nat.lt_succ_self _)
    · exact Nat.lt_succ_self _
  · rw [hlog] at hp hq
    rcases mem_concat.mp hp with hp | hp
    · rcases mem_concat.mp hq with hq | hq
      · exact h.begun_inj hp hq heq
      · cases hq
        exact absurd heq (hfresh _ hp rfl)
    · cases hp
      rcases mem_concat.mp hq with hq | hq
      · exact absurd heq.symm (hfresh _ hq rfl)
      · cases hq
        exact ⟨rfl, rfl⟩
  · by_cases hj : j = i
    · subst hj
      have hstage : (s.begin j job).caller j = .sending ⟨s.calls, job⟩ := Function.update_self ..
      rw [hstage, hlog]
      refine ⟨?_, ?_, ?_, ?_, nofun⟩
      · rintro n ⟨⟩
        exact ⟨job, mem_concat.mpr (.inr rfl)⟩
      · rintro n ⟨⟩ k answer hmem
        rcases mem_concat.mp hmem with hold | hnew
        · exact hfresh _ hold rfl rfl
        · cases hnew
      · rintro p ⟨⟩
        exact mem_concat.mpr (.inr rfl)
      · rintro p ⟨⟩ hmem
        rcases mem_concat.mp hmem with hold | hnew
        · exact hfresh _ hold rfl rfl
        · cases hnew
    · have hstage : (s.begin i job).caller j = s.caller j := Function.update_of_ne hj ..
      rw [hstage, hlog]
      refine (h.callers j).concat fun _ n hn heq => ?_
      obtain ⟨job', hbegun⟩ := (h.callers j).begun n hn
      exact hfresh _ hbegun rfl heq.symm
  · rw [hlog, filterMap_concat_none rfl]
    exact h.sent_nodup

/-- A thread goes on in its call, or leaves it. -/
lemma goes_on [DecidableEq ι] (h : s.Numbered) (hn : (s.caller i).call? = some n)
    (he : e.isCaller = true) (hcall : e.call = n) (hnew : ∀ j p, e ≠ .begun j p)
    (hcaller : s'.caller = Function.update s.caller i stage) (hcalls : s'.calls = s.calls)
    (hlog : s'.log = s.log ++ [e]) (hstage : stage.Agrees i (s.log ++ [e]))
    (hsent : ((s.log ++ [e]).filterMap sent?).Nodup) : s'.Numbered where
  below e' hmem hcall' := by
    rw [hlog] at hmem
    rw [hcalls]
    rcases mem_concat.mp hmem with hold | rfl
    · exact h.below e' hold hcall'
    · obtain ⟨job, hbegun⟩ := (h.callers i).begun n hn
      exact hcall.trans_lt (h.below _ hbegun rfl)
  begun_inj hp hq := by
    rw [hlog] at hp hq
    rcases mem_concat.mp hp with hp | hp
    · rcases mem_concat.mp hq with hq | hq
      · exact h.begun_inj hp hq
      · exact absurd hq.symm (hnew _ _)
    · exact absurd hp.symm (hnew _ _)
  callers j := by
    rw [hcaller, hlog]
    by_cases hj : j = i
    · subst hj
      rw [Function.update_self]
      exact hstage
    · rw [Function.update_of_ne hj]
      refine (h.callers j).concat fun _ m hm heq => ?_
      rw [← heq, hcall] at hm
      exact h.call?_ne hn hj hm
  sent_nodup := by
    rw [hlog]
    exact hsent

/-- A call returns. -/
lemma answer [DecidableEq ι] (h : s.Numbered) (hn : (s.caller i).call? = some n)
    (a : Except Fault β) : (s.answer i n a).Numbered := by
  refine h.goes_on hn (e := .returned i n a) rfl rfl nofun rfl rfl rfl (.outside i _) ?_
  rw [filterMap_concat_none rfl]
  exact h.sent_nodup

theorem step [DecidableEq ι] {move : HandoffMove ι β} (h : s.Numbered) (ht : s.Takes move s') :
    s'.Numbered := by
  cases ht with
  | begins job _ => exact h.begins _ job
  | @sends i parcel hsending _ =>
    have hcaller := h.callers i
    have hn : (s.caller i).call? = some parcel.call := by rw [hsending]; rfl
    refine h.goes_on hn (e := .sent parcel.call) rfl rfl nofun rfl rfl rfl ?_ ?_
    · obtain ⟨job, hbegun⟩ := hcaller.begun _ hn
      refine ⟨?_, ?_, nofun, nofun, ?_⟩
      · rintro n ⟨⟩
        exact ⟨job, mem_concat.mpr (.inl hbegun)⟩
      · rintro n ⟨⟩ j answer hmem
        rcases mem_concat.mp hmem with hold | hnew
        · exact hcaller.unreturned _ hn j answer hold
        · cases hnew
      · rintro n ⟨⟩
        exact mem_concat.mpr (.inr rfl)
    · rw [filterMap_concat_some (f := sent?) rfl]
      refine List.nodup_append_comm.mp (List.nodup_cons.mpr ⟨fun hmem => ?_, h.sent_nodup⟩)
      exact hcaller.unsent parcel hsending ((mem_filterMap_iff sent?_eq_some).mp hmem)
  | fails hsending _ => exact h.answer (by rw [hsending]; rfl) _
  | receives hreceiving _ => exact h.answer (by rw [hreceiving]; rfl) _
  | starts => exact h.of_log rfl rfl rfl rfl
  | finishes => exact h.of_log rfl rfl rfl rfl
  | discards => exact h.of_log rfl rfl rfl rfl
  | _ => exact ⟨h.below, h.begun_inj, h.callers, h.sent_nodup⟩

end Numbered

end Handoff

/-! ### Jobs -/

/-- The call whose job is running. -/
def PumpStage.current : PumpStage β → Option ℕ
  | running _ parcel => some parcel.call
  | _ => none

/-- A thread began the call of a job. -/
def Parcel.WasBegun (p : Parcel β) (log : List (HandoffEvent ι β)) : Prop := ∃ i, .begun i p ∈ log

lemma Parcel.WasBegun.concat {p : Parcel β} {log : List (HandoffEvent ι β)} (h : p.WasBegun log)
    (e : HandoffEvent ι β) : p.WasBegun (log ++ [e]) := by
  obtain ⟨i, hbegun⟩ := h
  exact ⟨i, mem_concat.mpr (.inl hbegun)⟩

namespace Handoff

/-- The jobs that were sent have started, or were dropped once the pump was gone, or wait, in this
order. All that have started have finished but one that is running. -/
structure Queued (s : Handoff ι β) : Prop where
  order : s.log.filterMap sent? = s.log.filterMap started? ++ s.log.filterMap discarded? ++
    s.channel.waiting.map Parcel.call
  waiting : ∀ p ∈ s.channel.waiting, p.WasBegun s.log
  alive : s.channel.pumpAlive = true → s.log.filterMap discarded? = []
  busy : s.pump = .idle ∨ s.channel.pumpAlive = true
  jobs : ∃ done, s.log.filter isJob = ranInTurn done ++ s.pump.current.toList.map .started
  running : ∀ loop p, s.pump = .running loop p → p.WasBegun s.log

namespace Queued

variable {s s' : Handoff ι β} {e : HandoffEvent ι β} {parcel : Parcel β} {loop : PumpLoop}
  {rest : List (Parcel β)}

lemma pumpAlive (h : s.Queued) (hpump : s.pump ≠ .idle) : s.channel.pumpAlive = true :=
  h.busy.resolve_left hpump

/-- A caller that sends nothing leaves the jobs as they are. -/
lemma of_caller (h : s.Queued) (he : e.isCaller = true) (hsent : sent? e = none)
    (hchannel : s'.channel = s.channel) (hpump : s'.pump = s.pump) (hlog : s'.log = s.log ++ [e]) :
    s'.Queued := by
  have hstarted : started? e = none := by
    cases e <;> first | rfl | cases he
  have hdiscarded : discarded? e = none := by
    cases e <;> first | rfl | cases he
  have hjob : ¬ e.isJob = true := by
    cases e <;> first | exact Bool.false_ne_true | cases he
  constructor
  · rw [hlog, hchannel, filterMap_concat_none hsent, filterMap_concat_none hstarted,
      filterMap_concat_none hdiscarded, h.order]
  · rw [hchannel, hlog]
    exact fun p hp => (h.waiting p hp).concat e
  · rw [hchannel, hlog, filterMap_concat_none hdiscarded]
    exact h.alive
  · rw [hchannel, hpump]
    exact h.busy
  · rw [hlog, hpump, filter_isJob_concat hjob]
    exact h.jobs
  · rw [hpump, hlog]
    exact fun loop p hp => (h.running loop p hp).concat e

/-- A job that is sent waits behind the others. -/
lemma sends (h : s.Queued) (hbegun : parcel.WasBegun s.log)
    (hchannel : s'.channel = { s.channel with waiting := s.channel.waiting ++ [parcel] })
    (hpump : s'.pump = s.pump) (hlog : s'.log = s.log ++ [.sent parcel.call]) : s'.Queued := by
  constructor
  · rw [hlog, hchannel, filterMap_concat_some (f := sent?) rfl,
      filterMap_concat_none (f := started?) rfl, filterMap_concat_none (f := discarded?) rfl,
      List.map_append, ← List.append_assoc, h.order]
    rfl
  · rw [hchannel, hlog]
    intro p hp
    rcases mem_concat.mp hp with hold | rfl
    · exact (h.waiting p hold).concat _
    · exact hbegun.concat _
  · rw [hchannel, hlog, filterMap_concat_none (f := discarded?) rfl]
    exact h.alive
  · rw [hchannel, hpump]
    exact h.busy
  · rw [hlog, hpump, filter_isJob_concat (e := .sent _) Bool.false_ne_true]
    exact h.jobs
  · rw [hpump, hlog]
    exact fun loop p hp => (h.running loop p hp).concat _

/-- The job that starts is the oldest that waits. -/
lemma starts (h : s.Queued) (hlooking : s.pump = .looking loop)
    (hwaiting : s.channel.waiting = parcel :: rest)
    (hchannel : s'.channel = { s.channel with waiting := rest })
    (hpump : s'.pump = .running loop parcel) (hlog : s'.log = s.log ++ [.started parcel.call]) :
    s'.Queued := by
  have halive := h.pumpAlive (by rw [hlooking]; exact nofun)
  have hnone := h.alive halive
  obtain ⟨done, hdone⟩ := h.jobs
  constructor
  · rw [hlog, hchannel, filterMap_concat_none (f := sent?) rfl,
      filterMap_concat_some (f := started?) rfl, filterMap_concat_none (f := discarded?) rfl,
      h.order, hnone, hwaiting, List.append_nil, List.append_nil, List.append_assoc]
    rfl
  · rw [hchannel, hlog]
    exact fun p hp => (h.waiting p (by rw [hwaiting]; exact List.mem_cons_of_mem _ hp)).concat _
  · rw [hlog, filterMap_concat_none (f := discarded?) rfl]
    exact fun _ => hnone
  · rw [hchannel]
    exact .inr halive
  · rw [hlog, hpump, List.filter_append, hdone, hlooking]
    exact ⟨done, congrArg (· ++ [_]) (List.append_nil _)⟩
  · rw [hpump, hlog]
    rintro loop' p ⟨⟩
    exact (h.waiting parcel (by rw [hwaiting]; exact List.mem_cons_self)).concat _

/-- The job that finishes is the one that is running. -/
lemma finishes (h : s.Queued) (hrunning : s.pump = .running loop parcel) {value : β}
    (hchannel : s'.channel = s.channel) (hpump : s'.pump = .replying loop parcel.call value)
    (hlog : s'.log = s.log ++ [.finished parcel.call value]) : s'.Queued := by
  have halive := h.pumpAlive (by rw [hrunning]; exact nofun)
  obtain ⟨done, hdone⟩ := h.jobs
  constructor
  · rw [hlog, hchannel, filterMap_concat_none (f := sent?) rfl,
      filterMap_concat_none (f := started?) rfl, filterMap_concat_none (f := discarded?) rfl,
      h.order]
  · rw [hchannel, hlog]
    exact fun p hp => (h.waiting p hp).concat _
  · rw [hchannel, hlog, filterMap_concat_none (f := discarded?) rfl]
    exact h.alive
  · rw [hchannel]
    exact .inr halive
  · refine ⟨done ++ [(parcel.call, value)], ?_⟩
    rw [hlog, hpump, List.filter_append, hdone, hrunning, ranInTurn, ranInTurn,
      List.flatMap_append, List.append_assoc, List.append_assoc]
    rfl
  · rw [hpump]
    exact nofun

/-- The pump goes on without touching a job. -/
lemma of_pump (h : s.Queued) (hcurrent : s.pump.current = none) (hstage : s'.pump.current = none)
    (hbusy : s'.pump = .idle ∨ s.channel.pumpAlive = true) (hchannel : s'.channel = s.channel)
    (hlog : s'.log = s.log) : s'.Queued := by
  have hjobs := h.jobs
  rw [hcurrent] at hjobs
  constructor
  · rw [hlog, hchannel]
    exact h.order
  · rw [hchannel, hlog]
    exact h.waiting
  · rw [hchannel, hlog]
    exact h.alive
  · rw [hchannel]
    exact hbusy
  · rw [hlog, hstage]
    exact hjobs
  · intro loop p hp
    rw [hp] at hstage
    cases hstage

/-- The pump goes away between two jobs. -/
lemma dropPump (h : s.Queued) (hcurrent : s.pump.current = none)
    (hchannel : s'.channel = s.channel.dropPump) (hpump : s'.pump = .idle)
    (hlog : s'.log = s.log) : s'.Queued := by
  have hjobs := h.jobs
  rw [hcurrent] at hjobs
  constructor
  · rw [hlog, hchannel]
    exact h.order
  · rw [hchannel, hlog]
    exact h.waiting
  · rw [hchannel]
    exact nofun
  · exact .inl hpump
  · rw [hlog, hpump]
    exact hjobs
  · rw [hpump]
    exact nofun

/-- Without a pump the oldest job that waits is dropped. -/
lemma discards (h : s.Queued) (hgone : s.channel.pumpAlive = false)
    (hwaiting : s.channel.waiting = parcel :: rest)
    (hchannel : s'.channel = { s.channel with waiting := rest }) (hpump : s'.pump = s.pump)
    (hlog : s'.log = s.log ++ [.discarded parcel.call]) : s'.Queued := by
  constructor
  · rw [hlog, hchannel, filterMap_concat_none (f := sent?) rfl,
      filterMap_concat_none (f := started?) rfl, filterMap_concat_some (f := discarded?) rfl,
      h.order, hwaiting, List.append_assoc, List.append_assoc, List.append_assoc]
    rfl
  · rw [hchannel, hlog]
    exact fun p hp => (h.waiting p (by rw [hwaiting]; exact List.mem_cons_of_mem _ hp)).concat _
  · rw [hchannel]
    intro halive
    cases hgone.symm.trans halive
  · rw [hchannel, hpump]
    exact h.busy
  · rw [hlog, hpump, filter_isJob_concat (e := .discarded _) Bool.false_ne_true]
    exact h.jobs
  · rw [hpump, hlog]
    exact fun loop p hp => (h.running loop p hp).concat _

theorem step [DecidableEq ι] {move : HandoffMove ι β} (h : s.Queued) (hs : s.Numbered)
    (ht : s.Takes move s') : s'.Queued := by
  cases ht with
  | idles => exact h
  | begins => exact h.of_caller rfl rfl rfl rfl rfl
  | @sends i parcel hsending _ =>
    exact h.sends ⟨i, (hs.callers i).parcel parcel hsending⟩ rfl rfl rfl
  | fails => exact h.of_caller rfl rfl rfl rfl rfl
  | receives => exact h.of_caller rfl rfl rfl rfl rfl
  | pumps loop hidle halive => exact h.of_pump (by rw [hidle]; rfl) rfl (.inr halive) rfl rfl
  | rests hlooking => exact h.of_pump (by rw [hlooking]; rfl) rfl (.inl rfl) rfl rfl
  | stops hlooking => exact h.dropPump (by rw [hlooking]; rfl) rfl rfl rfl
  | starts hlooking hwaiting => exact h.starts hlooking hwaiting rfl rfl rfl
  | finishes hrunning => exact h.finishes hrunning rfl rfl rfl
  | replies hreplying =>
    exact h.of_pump (by rw [hreplying]; rfl) rfl
      (.inr (h.pumpAlive (by rw [hreplying]; exact nofun))) rfl rfl
  | releases hreleasing =>
    exact h.of_pump (by rw [hreleasing]; rfl) rfl
      (.inr (h.pumpAlive (by rw [hreleasing]; exact nofun))) rfl rfl
  | drops hidle => exact h.dropPump (by rw [hidle]; rfl) rfl hidle rfl
  | parts => exact ⟨h.order, h.waiting, h.alive, h.busy, h.jobs, h.running⟩
  | discards hgone hwaiting => exact h.discards hgone hwaiting rfl rfl rfl

end Queued

end Handoff

end RenderBridge
