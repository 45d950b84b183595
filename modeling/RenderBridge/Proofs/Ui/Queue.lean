import RenderBridge.Proofs.Ui.Handoff
/-!
A call from another thread that nobody comes between, and what a queue on its own makes of a job
from elsewhere.

* `Handoff.run_pump`: the pump runs all that waits.
* `Handoff.run_call`: **a call on its own** is answered with the value of its job as long as the
  pump is there.
* `Handoff.run_call_eq_callFromElsewhere`: so is a job from elsewhere on a queue.
-/

set_option autoImplicit false

namespace RenderBridge

variable {ι β : Type} [DecidableEq ι]

namespace Handoff

lemma run_append (s : Handoff ι β) (moves moves' : List (HandoffMove ι β)) :
    s.run (moves ++ moves') = (s.run moves).run moves' := List.foldl_append

/-- The four steps in which the pump runs the oldest job. -/
lemma run_pump_four (s : Handoff ι β) {loop : PumpLoop} {p : Parcel β} {rest : List (Parcel β)}
    (hlooking : s.pump = .looking loop) (hwaiting : s.channel.waiting = p :: rest) :
    let s' := s.run (List.replicate 4 .pump)
    s'.pump = .looking loop ∧ s'.channel.waiting = rest ∧ s'.caller = s.caller ∧
      s'.thread = s.thread ∧ (s'.reply p.call).value = some (p.job s.thread) := by
  simp [run, step, pumpNext, JobChannel.take?, hlooking, hwaiting, note, setReply]

/-- The pump runs all that waits, and the value of the last job is on its channel. -/
lemma run_pump (s : Handoff ι β) {loop : PumpLoop} (hlooking : s.pump = .looking loop)
    {waiting : List (Parcel β)} (hwaiting : s.channel.waiting = waiting) :
    let s' := s.run (List.replicate (4 * waiting.length) .pump)
    s'.caller = s.caller ∧
      ∀ p, waiting.getLast? = some p → (s'.reply p.call).value = some (p.job s.thread) := by
  induction waiting generalizing s with
  | nil => exact ⟨rfl, fun p hp => by cases hp⟩
  | cons p rest ih =>
    obtain ⟨hlooking', hwaiting', hcaller', hthread', hvalue⟩ := s.run_pump_four hlooking hwaiting
    obtain ⟨hcaller, hlast⟩ := ih _ hlooking' hwaiting'
    rw [List.length_cons, Nat.mul_add, Nat.mul_one, Nat.add_comm, List.replicate_add, run_append]
    refine ⟨hcaller.trans hcaller', fun q hq => ?_⟩
    cases rest with
    | nil =>
      cases hq
      exact hvalue
    | cons q' rest =>
      rw [List.getLast?_cons_cons] at hq
      rw [hlast q hq, hthread']

/-- A pump that is not started does nothing. -/
lemma run_pump_idle (s : Handoff ι β) (hidle : s.pump = .idle) (n : ℕ) :
    s.run (List.replicate n .pump) = s := by
  have hstep : s.step .pump = s := by
    rw [step, pumpNext, hidle]
  induction n with
  | zero => rfl
  | succ n ih =>
    rw [List.replicate_succ, run, List.foldl_cons, hstep]
    exact ih

/-- A call that nobody comes between: its job is sent, the pump runs all that waits, and the call
returns with the value of the job. Without a pump it fails at once. -/
theorem run_call (s : Handoff ι β) {i : ι} (hcaller : s.caller i = .outside)
    (hpump : s.pump = .idle) (hqueue : s.queueAlive = true) (job : String → β) :
    (s.run ([.call i job, .advance i, .startPump .untilEmpty] ++
        List.replicate (4 * (s.channel.waiting.length + 1)) .pump ++ [.advance i])).log.getLast? =
      some (.returned i s.calls
        ((if s.channel.pumpAlive then UiThread.running s.thread else .stopped).run job)) := by
  obtain ⟨s₁, hs₁⟩ : ∃ s₁, s.run [.call i job, .advance i, .startPump .untilEmpty] = s₁ := ⟨_, rfl⟩
  rw [run_append, run_append, hs₁]
  by_cases halive : s.channel.pumpAlive = true
  · have hstart : s₁.pump = .looking .untilEmpty ∧ s₁.caller i = .receiving s.calls ∧
        s₁.thread = s.thread ∧ s₁.channel.waiting = s.channel.waiting ++ [⟨s.calls, job⟩] := by
      rw [← hs₁]
      simp [run, step, begin, advance, JobChannel.send, put, note, hcaller, hpump, hqueue, halive]
    obtain ⟨hlooking, hreceiving, hthread, hwaiting⟩ := hstart
    obtain ⟨hstays, hlast⟩ := s₁.run_pump hlooking hwaiting
    have hvalue := hlast ⟨s.calls, job⟩ List.getLast?_concat
    rw [List.length_append, List.length_singleton] at hstays hvalue
    generalize s₁.run (List.replicate (4 * (s.channel.waiting.length + 1)) .pump) = s₂
      at hstays hvalue ⊢
    rw [← hstays] at hreceiving
    simp [run, step, advance, hreceiving, ReplyChannel.receive, hvalue, answer, note, halive,
      hthread, UiThread.run]
  · have hfailed : s₁.pump = .idle ∧ s₁.caller i = .outside ∧ s₁.log.getLast? =
        some (.returned i s.calls (.error (.openingFailed .uiStopped))) := by
      rw [← hs₁]
      simp [run, step, begin, advance, JobChannel.send, put, note, answer, hcaller, hpump, hqueue,
        halive]
    obtain ⟨hidle, houtside, hlast⟩ := hfailed
    rw [s₁.run_pump_idle hidle, if_neg halive]
    simp [run, step, advance, houtside, hlast, UiThread.run]

end Handoff

/-- A job from elsewhere is answered with its value as long as the pump is there. -/
lemma UiQueue.callFromElsewhere_fst (q : UiQueue) (job : UiJob) (thread : String) :
    (q.callFromElsewhere job).1 =
      (if q.pumpAlive then UiThread.running thread else .stopped).run fun _ => job.value := by
  rw [callFromElsewhere, dispatch, JobChannel.send]
  by_cases halive : q.pumpAlive = true
  · rw [if_pos halive, if_pos halive]
    rfl
  · rw [if_neg halive, if_neg halive]
    rfl

/-- A queue on its own answers a job from elsewhere as a call is answered that nobody comes
between. -/
theorem Handoff.run_call_eq_callFromElsewhere (s : Handoff ι ℤ) {i : ι}
    (hcaller : s.caller i = .outside) (hpump : s.pump = .idle) (hqueue : s.queueAlive = true)
    (q : UiQueue) (hq : q.pumpAlive = s.channel.pumpAlive) (job : UiJob) :
    (s.run ([.call i fun _ => job.value, .advance i, .startPump .untilEmpty] ++
        List.replicate (4 * (s.channel.waiting.length + 1)) .pump ++ [.advance i])).log.getLast? =
      some (.returned i s.calls (q.callFromElsewhere job).1) := by
  rw [s.run_call hcaller hpump hqueue, q.callFromElsewhere_fst job s.thread, hq]

end RenderBridge
