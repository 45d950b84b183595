import RenderBridge.Proofs.Context.Frame
import RenderBridge.Proofs.Ui.Handoff
/-!
What calls that hand jobs to the UI thread are answered.

* `Handoff.Replied`: a value on its way back is that of a job that finished.
* `Handoff.Founded`: a call fails only where its job was not sent, or was dropped.
* `Handoff.Sound`, `Handoff.Sound.run`: what every run keeps.
* `handoff_safe`: **what calls from other threads can rely on**.
-/

set_option autoImplicit false

namespace RenderBridge

open HandoffEvent

variable {ι β : Type}

/-! ### Answers -/

namespace ReplyChannel

variable {r : ReplyChannel β}

lemma receive_ok {value : β} (h : r.receive = some (.ok value)) : r.value = some value := by
  rw [receive] at h
  split at h
  · rename_i hvalue
    cases h
    exact hvalue
  · cases h
  · cases h

lemma receive_error {fault : Fault} (h : r.receive = some (.error fault)) :
    fault = .openingFailed .uiJobDropped ∧ r.value = none ∧ r.jobAlive = false := by
  rw [receive] at h
  split at h
  · cases h
  · cases h
  · rename_i hvalue halive
    cases h
    exact ⟨rfl, hvalue, halive⟩

end ReplyChannel

namespace Handoff

/-- A value on the channel of a call, or on its way there, is that of a job that finished; a channel
without its job has a value, or the job was dropped. -/
structure Replied (s : Handoff ι β) : Prop where
  value : ∀ n v, (s.reply n).value = some v → .finished n v ∈ s.log
  orphaned : ∀ n, (s.reply n).jobAlive = false →
    (s.reply n).value.isSome = true ∨ .discarded n ∈ s.log
  replying : ∀ loop n v, s.pump = .replying loop n v → .finished n v ∈ s.log
  releasing : ∀ loop n, s.pump = .releasing loop n → (s.reply n).value.isSome = true

/-- Every event follows on what was before it. A call failed because its job was not sent, or was
dropped before it had run. -/
structure Founded (s : Handoff ι β) : Prop where
  consequent : Consequent s.thread s.log
  failed : ∀ i n fault, .returned i n (.error fault) ∈ s.log →
    (fault = .openingFailed .uiStopped ∧ .sent n ∉ s.log) ∨
      (fault = .openingFailed .uiJobDropped ∧ .discarded n ∈ s.log)

namespace Replied

variable {s s' : Handoff ι β} {e : HandoffEvent ι β}

/-- One more event changes nothing. -/
lemma concat (h : s.Replied) (hreply : s'.reply = s.reply) (hpump : s'.pump = s.pump)
    (hlog : s'.log = s.log ++ [e]) : s'.Replied := by
  constructor
  · rw [hreply, hlog]
    exact fun n v hv => mem_concat.mpr (.inl (h.value n v hv))
  · rw [hreply, hlog]
    exact fun n hn => (h.orphaned n hn).imp_right fun hmem => mem_concat.mpr (.inl hmem)
  · rw [hpump, hlog]
    exact fun loop n v hp => mem_concat.mpr (.inl (h.replying loop n v hp))
  · rw [hpump, hreply]
    exact h.releasing

/-- The pump comes to a stage in which it has nothing to send. -/
lemma of_pump (h : s.Replied) (hreply : s'.reply = s.reply)
    (hreplying : ∀ loop n v, s'.pump = .replying loop n v → .finished n v ∈ s'.log)
    (hreleasing : ∀ loop n, s'.pump ≠ .releasing loop n) (hlog : ∀ e ∈ s.log, e ∈ s'.log) :
    s'.Replied := by
  constructor
  · rw [hreply]
    exact fun n v hv => hlog _ (h.value n v hv)
  · rw [hreply]
    exact fun n hn => (h.orphaned n hn).imp_right (hlog _)
  · exact hreplying
  · exact fun loop n hp => absurd hp (hreleasing loop n)

/-- A value is sent. -/
lemma replies (h : s.Replied) {loop : PumpLoop} {call : ℕ} {value : β}
    (hreplying : s.pump = .replying loop call value)
    (hreply : s'.reply = Function.update s.reply call { s.reply call with value := some value })
    (hpump : s'.pump = .releasing loop call) (hlog : s'.log = s.log) : s'.Replied := by
  refine ⟨fun n v hv => ?_, fun n hn => ?_, fun _ _ _ hp => ?_, fun loop' n hp => ?_⟩
  · rw [hreply] at hv
    rw [hlog]
    by_cases hcall : n = call
    · rw [hcall, Function.update_self] at hv
      cases hv
      rw [hcall]
      exact h.replying loop call value hreplying
    · rw [Function.update_of_ne hcall] at hv
      exact h.value n v hv
  · rw [hreply] at hn ⊢
    rw [hlog]
    by_cases hcall : n = call
    · rw [hcall, Function.update_self]
      exact .inl rfl
    · rw [Function.update_of_ne hcall] at hn ⊢
      exact h.orphaned n hn
  · cases hpump.symm.trans hp
  · cases hpump.symm.trans hp
    rw [hreply, Function.update_self]
    rfl

/-- What is left of the job of a call is dropped. -/
lemma drops (h : s.Replied) {call : ℕ} (hreply : s'.reply = Function.update s.reply call
      { s.reply call with jobAlive := false })
    (hcall : (s.reply call).value.isSome = true ∨ .discarded call ∈ s'.log)
    (hpump : s'.pump = s.pump ∨ ∃ loop, s'.pump = .looking loop)
    (hlog : ∀ e ∈ s.log, e ∈ s'.log) : s'.Replied := by
  have hvalue : ∀ n, (s'.reply n).value = (s.reply n).value := by
    intro n
    rw [hreply]
    by_cases hn : n = call
    · rw [hn, Function.update_self]
    · rw [Function.update_of_ne hn]
  refine ⟨fun n v hv => ?_, fun n halive => ?_, fun loop n v hp => ?_, fun loop n hp => ?_⟩
  · rw [hvalue] at hv
    exact hlog _ (h.value n v hv)
  · rw [hvalue]
    by_cases hn : n = call
    · rw [hn]
      exact hcall
    · rw [hreply, Function.update_of_ne hn] at halive
      exact (h.orphaned n halive).imp_right (hlog _)
  · rcases hpump with hpump | ⟨loop', hpump⟩
    · exact hlog _ (h.replying loop n v (hpump.symm.trans hp))
    · cases hpump.symm.trans hp
  · rw [hvalue]
    rcases hpump with hpump | ⟨loop', hpump⟩
    · exact h.releasing loop n (hpump.symm.trans hp)
    · cases hpump.symm.trans hp

theorem step [DecidableEq ι] {move : HandoffMove ι β} (h : s.Replied) (ht : s.Takes move s') :
    s'.Replied := by
  cases ht with
  | idles => exact h
  | begins => exact h.concat rfl rfl rfl
  | sends => exact h.concat rfl rfl rfl
  | fails => exact h.concat rfl rfl rfl
  | receives => exact h.concat rfl rfl rfl
  | pumps => exact h.of_pump rfl nofun nofun fun _ => id
  | rests => exact h.of_pump rfl nofun nofun fun _ => id
  | stops => exact h.of_pump rfl nofun nofun fun _ => id
  | starts => exact h.of_pump rfl nofun nofun fun _ hmem => mem_concat.mpr (.inl hmem)
  | finishes =>
    refine h.of_pump rfl ?_ nofun fun _ hmem => mem_concat.mpr (.inl hmem)
    rintro loop n v ⟨⟩
    exact mem_concat.mpr (.inr rfl)
  | replies hreplying => exact h.replies hreplying rfl rfl rfl
  | releases hreleasing =>
    exact h.drops rfl (.inl (h.releasing _ _ hreleasing)) (.inr ⟨_, rfl⟩) fun _ => id
  | drops => exact ⟨h.value, h.orphaned, h.replying, h.releasing⟩
  | parts => exact ⟨h.value, h.orphaned, h.replying, h.releasing⟩
  | discards =>
    exact h.drops rfl (.inr (mem_concat.mpr (.inr rfl))) (.inl rfl) fun _ hmem =>
      mem_concat.mpr (.inl hmem)

end Replied

namespace Founded

variable {s s' : Handoff ι β} {e : HandoffEvent ι β} {i : ι} {n : ℕ}

/-- One more event, which is no failure without a reason and sends no job of a call that
returned. -/
lemma concat (h : s.Founded) (he : e.Follows s.thread s.log)
    (hsent : ∀ n, e = .sent n → ∀ j a, .returned j n a ∉ s.log)
    (hfailed : ∀ i n fault, e = .returned i n (.error fault) →
      (fault = .openingFailed .uiStopped ∧ .sent n ∉ s.log) ∨
        (fault = .openingFailed .uiJobDropped ∧ .discarded n ∈ s.log))
    (hthread : s'.thread = s.thread) (hlog : s'.log = s.log ++ [e]) : s'.Founded := by
  constructor
  · rw [hthread, hlog]
    exact h.consequent.concat he
  · rw [hlog]
    intro i n fault hmem
    have hwhy : (fault = .openingFailed .uiStopped ∧ .sent n ∉ s.log) ∨
        (fault = .openingFailed .uiJobDropped ∧ .discarded n ∈ s.log) := by
      rcases mem_concat.mp hmem with hold | hnew
      · exact h.failed i n fault hold
      · exact hfailed i n fault hnew.symm
    refine hwhy.imp (And.imp_right fun hunsent hmem' => ?_)
      (And.imp_right fun hdiscarded => mem_concat.mpr (.inl hdiscarded))
    rcases mem_concat.mp hmem' with hold' | rfl
    · exact hunsent hold'
    · rcases mem_concat.mp hmem with hold | hnew
      · exact hsent n rfl i _ hold
      · cases hnew

/-- A call returns with what came on its channel. -/
lemma receives (h : s.Founded) (hs : s.Numbered) (hr : s.Replied)
    (hreceiving : s.caller i = .receiving n) {a : Except Fault β}
    (hreceived : (s.reply n).receive = some a) (hthread : s'.thread = s.thread)
    (hlog : s'.log = s.log ++ [.returned i n a]) : s'.Founded := by
  obtain ⟨job, hbegun⟩ := (hs.callers i).begun n (by rw [hreceiving]; rfl)
  cases a with
  | ok v =>
    have hfinished := hr.value n v (ReplyChannel.receive_ok hreceived)
    refine h.concat (e := .returned i n (.ok v)) ⟨hfinished, job, hbegun⟩ (fun _ heq => ?_)
      (fun _ _ _ heq => ?_) hthread hlog
    · cases heq
    · cases heq
  | error fault =>
    obtain ⟨rfl, hnone, hdead⟩ := ReplyChannel.receive_error hreceived
    have hdiscarded : .discarded n ∈ s.log := by
      rcases hr.orphaned n hdead with hsome | hdiscarded
      · rw [hnone] at hsome
        cases hsome
      · exact hdiscarded
    refine h.concat (e := .returned i n (.error _)) ⟨job, hbegun⟩ (fun _ heq => ?_)
      (fun _ _ _ heq => ?_) hthread hlog
    · cases heq
    · cases heq
      exact .inr ⟨rfl, hdiscarded⟩

/-- An event that is no answer, and sends nothing. -/
lemma quiet (h : s.Founded) (he : e.Follows s.thread s.log) (hthread : s'.thread = s.thread)
    (hlog : s'.log = s.log ++ [e]) (hsent : sent? e = none) (hanswer : e.isAnswer = false) :
    s'.Founded := by
  refine h.concat he (fun n heq => ?_) (fun i n fault heq => ?_) hthread hlog
  · rw [heq] at hsent
    cases hsent
  · rw [heq] at hanswer
    cases hanswer

theorem step [DecidableEq ι] {move : HandoffMove ι β} (h : s.Founded) (hs : s.Numbered)
    (hq : s.Queued) (hr : s.Replied) (ht : s.Takes move s') : s'.Founded := by
  cases ht with
  | @begins i job _ => exact h.quiet (e := .begun i ⟨s.calls, job⟩) trivial rfl rfl rfl rfl
  | @sends i parcel hsending _ =>
    have hunreturned := (hs.callers i).unreturned parcel.call (by rw [hsending]; rfl)
    refine h.concat (e := .sent parcel.call) trivial (fun _ heq => ?_) (fun _ _ _ heq => ?_) rfl rfl
    · cases heq
      exact hunreturned
    · cases heq
  | @fails i parcel hsending _ =>
    have hunsent := (hs.callers i).unsent parcel hsending
    have hbegun := (hs.callers i).parcel parcel hsending
    refine h.concat (e := .returned i parcel.call (.error _)) ⟨parcel.job, hbegun⟩
      (fun _ heq => ?_) (fun _ _ _ heq => ?_) rfl rfl
    · cases heq
    · cases heq
      exact .inl ⟨rfl, hunsent⟩
  | receives hreceiving hreceived => exact h.receives hs hr hreceiving hreceived rfl rfl
  | @starts _ parcel _ _ _ => exact h.quiet (e := .started parcel.call) trivial rfl rfl rfl rfl
  | @finishes loop parcel hrunning =>
    obtain ⟨i, hbegun⟩ := hq.running loop parcel hrunning
    exact h.quiet (e := .finished parcel.call (parcel.job s.thread)) ⟨i, parcel.job, hbegun, rfl⟩
      rfl rfl rfl rfl
  | @discards parcel _ _ _ =>
    exact h.quiet (e := .discarded parcel.call) trivial rfl rfl rfl rfl
  | _ => exact ⟨h.consequent, h.failed⟩

end Founded

/-! ### Runs -/

/-- What every run keeps. -/
structure Sound (thread : String) (s : Handoff ι β) : Prop where
  numbered : s.Numbered
  queued : s.Queued
  replied : s.Replied
  founded : s.Founded
  thread_eq : s.thread = thread

namespace Sound

variable {thread : String} {s s' : Handoff ι β} {n : ℕ}

/-- Nothing has happened yet. -/
lemma start (thread : String) : ({ thread } : Handoff ι β).Sound thread where
  numbered :=
    { below := fun e hmem => by cases hmem
      begun_inj := fun hmem => by cases hmem
      callers := fun i => .outside i _
      sent_nodup := List.nodup_nil }
  queued :=
    { order := rfl
      waiting := fun p hmem => by cases hmem
      alive := fun _ => rfl
      busy := .inl rfl
      jobs := ⟨[], rfl⟩
      running := fun loop p hp => by cases hp }
  replied :=
    { value := fun n v hv => by cases hv
      orphaned := fun n hn => by cases hn
      replying := fun loop n v hp => by cases hp
      releasing := fun loop n hp => by cases hp }
  founded :=
    { consequent := fun before event after hlog =>
        absurd hlog.symm (List.append_ne_nil_of_right_ne_nil _ (List.cons_ne_nil _ _))
      failed := fun i n fault hmem => by cases hmem }
  thread_eq := rfl

theorem step [DecidableEq ι] {move : HandoffMove ι β} (h : s.Sound thread)
    (ht : s.Takes move s') : s'.Sound thread where
  numbered := h.numbered.step ht
  queued := h.queued.step h.numbered ht
  replied := h.replied.step ht
  founded := h.founded.step h.numbered h.queued h.replied ht
  thread_eq := by
    rw [← h.thread_eq]
    cases ht <;> rfl

theorem run [DecidableEq ι] (h : s.Sound thread) (moves : List (HandoffMove ι β)) :
    (s.run moves).Sound thread := by
  induction moves generalizing s with
  | nil => exact h
  | cons move moves ih => exact ih (h.step (s.step_takes move))

end Sound

/-! ### What calls can rely on -/

namespace Sound

variable {thread : String} {s : Handoff ι β} {n : ℕ}

/-- The jobs that started, the last of which may still run, are the first of those that were
sent. -/
lemma started (h : s.Sound thread) : ∃ done, ∃ current : Option ℕ,
    s.log.filter isJob = ranInTurn done ++ current.toList.map .started ∧
      s.log.filterMap started? = done.map (·.1) ++ current.toList ∧
      s.log.filterMap started? <+: s.log.filterMap sent? := by
  obtain ⟨done, hdone⟩ := h.queued.jobs
  refine ⟨done, s.pump.current, hdone, ?_, ?_⟩
  · rw [← filterMap_filter_isJob started?_of_not_isJob, hdone, List.filterMap_append,
      started_ranInTurn]
    cases s.pump.current <;> rfl
  · rw [h.queued.order, List.append_assoc]
    exact List.prefix_append _ _

/-- A job that was not sent, or was dropped, does not start. -/
lemma not_started (h : s.Sound thread) (hn : .sent n ∉ s.log ∨ .discarded n ∈ s.log) :
    .started n ∉ s.log := by
  intro hstarted
  rw [← mem_filterMap_iff started?_eq_some] at hstarted
  rcases hn with hunsent | hdiscarded
  · obtain ⟨-, -, -, -, hearly⟩ := h.started
    exact hunsent ((mem_filterMap_iff sent?_eq_some).mp (hearly.subset hstarted))
  · rw [← mem_filterMap_iff discarded?_eq_some] at hdiscarded
    have hnodup := h.numbered.sent_nodup
    rw [h.queued.order] at hnodup
    exact List.disjoint_of_nodup_append hnodup.of_append_left hstarted hdiscarded

/-- No job finishes twice. -/
lemma length_valueOf_le_one (h : s.Sound thread) (n : ℕ) :
    (s.log.filterMap (valueOf n)).length ≤ 1 := by
  obtain ⟨done, current, hjobs, hstarted, hearly⟩ := h.started
  have hnodup : (done.map (·.1)).Nodup := by
    have hall := hearly.sublist.nodup h.numbered.sent_nodup
    rw [hstarted] at hall
    exact hall.of_append_left
  have hcurrent :
      (current.toList.map .started : List (HandoffEvent ι β)).filterMap (valueOf n) = [] := by
    cases current <;> rfl
  rw [← filterMap_filter_isJob (valueOf_of_not_isJob n), hjobs, List.filterMap_append, hcurrent,
    List.append_nil]
  refine (length_valueOf_ranInTurn hnodup n).trans ?_
  split <;> omega

/-- What a call returned with is the value of its own job, which finished once before. -/
lemma returned_ok (h : s.Sound thread) {before after : List (HandoffEvent ι β)} {i : ι} {v : β}
    (hlog : s.log = before ++ .returned i n (.ok v) :: after) :
    ∃ job, .begun i ⟨n, job⟩ ∈ before ∧ v = job thread ∧ before.filterMap (valueOf n) = [v] := by
  obtain ⟨hfinished, job, hbegun⟩ := h.founded.consequent _ _ _ hlog
  have hbefore : before <+: s.log := by
    rw [hlog]
    exact List.prefix_append _ _
  -- The job that finished is that of a call with this number, and there is one such call.
  obtain ⟨j, job', hbegun', hvalue⟩ := h.founded.consequent.follows (hbefore.subset hfinished)
  obtain ⟨-, heq⟩ := h.numbered.begun_inj (hbefore.subset hbegun) hbegun' rfl
  have hjob : job = job' := congrArg Parcel.job heq
  refine ⟨job, hbegun, ?_, ?_⟩
  · rw [hvalue, ← hjob, h.thread_eq]
  · have hmem : v ∈ before.filterMap (valueOf n) :=
      List.mem_filterMap.mpr ⟨_, hfinished, if_pos rfl⟩
    have hlength : (before.filterMap (valueOf n)).length ≤ 1 :=
      (hbefore.sublist.filterMap _).length_le.trans (h.length_valueOf_le_one n)
    obtain ⟨w, hw⟩ := List.length_eq_one_iff.mp
      (le_antisymm hlength (List.length_pos_of_mem hmem))
    rw [hw] at hmem ⊢
    rw [List.mem_singleton.mp hmem]

/-- A call that failed has a job that never started. -/
lemma returned_error (h : s.Sound thread) {i : ι} {fault : Fault}
    (hmem : .returned i n (.error fault) ∈ s.log) :
    (fault = .openingFailed .uiStopped ∨ fault = .openingFailed .uiJobDropped) ∧
      .started n ∉ s.log := by
  rcases h.founded.failed i n fault hmem with ⟨hfault, hunsent⟩ | ⟨hfault, hdiscarded⟩
  · exact ⟨.inl hfault, h.not_started (.inl hunsent)⟩
  · exact ⟨.inr hfault, h.not_started (.inr hdiscarded)⟩

end Sound

/-- Only a step of the pump starts a job or finishes one. -/
lemma filter_isJob_step [DecidableEq ι] {s s' : Handoff ι β} {move : HandoffMove ι β}
    (ht : s.Takes move s') (hmove : move ≠ .pump) : s'.log.filter isJob = s.log.filter isJob := by
  cases ht with
  | begins => exact filter_isJob_concat Bool.false_ne_true
  | sends => exact filter_isJob_concat Bool.false_ne_true
  | fails => exact filter_isJob_concat Bool.false_ne_true
  | receives => exact filter_isJob_concat Bool.false_ne_true
  | discards => exact filter_isJob_concat Bool.false_ne_true
  | idles => rfl
  | pumps => rfl
  | drops => rfl
  | parts => rfl
  | _ => exact absurd rfl hmove

end Handoff

/-- A resize that fails because its job was not run leaves the context as it is. -/
lemma Context.resize_unrun {δ P D : Type} [Device δ P D] (c : Context δ P D) (width height : ℤ)
    (scale : Single) (fullscreen : Bool) {fault : Fault}
    (hfault : fault = .openingFailed .uiStopped ∨ fault = .openingFailed .uiJobDropped)
    (hresize : (c.resize width height scale fullscreen).1 = .error fault) :
    (c.resize width height scale fullscreen).2 = c := by
  rcases c.resize_cases width height scale fullscreen with ⟨fault', hcall⟩ |
    ⟨geometry, name, -, -, -, -, ⟨fault', d, -, hcall⟩ | ⟨d, -, hcall⟩⟩
  · rw [hcall]
  · rw [hcall] at hresize
    have hdevice : Fault.ofDevice fault' = fault := Except.error.inj hresize
    rcases hfault with rfl | rfl <;>
      (rw [Fault.ofDevice] at hdevice; split at hdevice <;> cases hdevice)
  · rw [hcall] at hresize
    cases hresize

/-- **What calls from other threads can rely on.** Whatever moves any number of threads and the pump
make, jobs run one at a time, the first of those that were sent and in that order, each of them
once, and only the pump runs them. A call that returns a value returns that of its own job, run on
the UI thread, which finished exactly once before. A call that fails says that the UI thread is gone
or that the job was dropped; its job never started; and a resize that fails so leaves its context as
it is. Either way a call answers what the UI thread, as it was found, makes of its job. -/
theorem handoff_safe [DecidableEq ι] (thread : String) (moves : List (HandoffMove ι β)) :
    let s : Handoff ι β := .run moves { thread }
    (∃ done, ∃ current : Option ℕ,
      s.log.filter isJob = ranInTurn done ++ current.toList.map .started ∧
        done.map (·.1) ++ current.toList <+: s.log.filterMap sent? ∧
        (s.log.filterMap sent?).Nodup) ∧
    (∀ move, (s.step move).log.filter isJob ≠ s.log.filter isJob → move = .pump) ∧
    (∀ before after i n v, s.log = before ++ .returned i n (.ok v) :: after →
      ∃ job, .begun i ⟨n, job⟩ ∈ before ∧ v = job thread ∧ before.filterMap (valueOf n) = [v]) ∧
    (∀ i n fault, .returned i n (.error fault) ∈ s.log →
      (fault = .openingFailed .uiStopped ∨ fault = .openingFailed .uiJobDropped) ∧
        .started n ∉ s.log ∧
        ∀ {δ P D : Type} [Device δ P D] (c : Context δ P D) (width height : ℤ) (scale : Single)
          (fullscreen : Bool), (c.resize width height scale fullscreen).1 = .error fault →
            (c.resize width height scale fullscreen).2 = c) ∧
    ∀ i n answer, .returned i n answer ∈ s.log →
      ∃ job, ∃ ui : UiThread, .begun i ⟨n, job⟩ ∈ s.log ∧ answer = ui.run job := by
  intro s
  have hs : s.Sound thread := (Handoff.Sound.start thread).run moves
  refine ⟨?_, fun move hne => ?_, fun before after i n v hlog => hs.returned_ok hlog,
    fun i n fault hmem => ?_, fun i n answer hmem => ?_⟩
  · obtain ⟨done, current, hjobs, hstarted, hearly⟩ := hs.started
    exact ⟨done, current, hjobs, hstarted ▸ hearly, hs.numbered.sent_nodup⟩
  · by_contra hmove
    exact hne (Handoff.filter_isJob_step (s.step_takes move) hmove)
  · obtain ⟨hfault, hstarted⟩ := hs.returned_error hmem
    exact ⟨hfault, hstarted, fun c width height scale fullscreen =>
      c.resize_unrun width height scale fullscreen hfault⟩
  · obtain ⟨before, after, hlog⟩ := List.append_of_mem hmem
    cases answer with
    | ok v =>
      obtain ⟨job, hbegun, hvalue, -⟩ := hs.returned_ok hlog
      refine ⟨job, .running thread, ?_, congrArg Except.ok hvalue⟩
      rw [hlog]
      exact List.mem_append_left _ hbegun
    | error fault =>
      obtain ⟨job, hbegun⟩ := hs.founded.consequent.follows hmem
      rcases (hs.returned_error hmem).1 with rfl | rfl
      · exact ⟨job, .stopped, hbegun, rfl⟩
      · exact ⟨job, .dropping, hbegun, rfl⟩

/-- Three calls for the length of the UI thread's name. The first is answered. The pump goes while
the job of the second waits, and before that of the third is sent. -/
def partedRun : List (HandoffMove Bool ℕ) := [
  .call true String.length, .advance true, .startPump .untilEmpty, .pump, .pump, .pump, .pump,
  .pump, .advance true, .call false String.length, .advance false, .dropPump,
  .call true String.length, .advance true, .discard, .advance false]

/-- Only the job of the first call ran, and it ran once. -/
theorem handoff_safe_partedRun :
    let s : Handoff Bool ℕ := .run partedRun { thread := "ui" }
    .returned true 0 (.ok 2) ∈ s.log ∧ s.log.filterMap (valueOf 0) = [2] ∧
      .returned true 2 (.error (.openingFailed .uiStopped)) ∈ s.log ∧ .started 2 ∉ s.log ∧
      .returned false 1 (.error (.openingFailed .uiJobDropped)) ∈ s.log ∧ .started 1 ∉ s.log := by
  intro s
  obtain ⟨-, -, hok, herror, -⟩ := handoff_safe "ui" partedRun
  have hlog : s.log = [.begun true ⟨0, String.length⟩, .sent 0, .started 0, .finished 0 2] ++
      .returned true 0 (.ok 2) :: [.begun false ⟨1, String.length⟩, .sent 1,
        .begun true ⟨2, String.length⟩, .returned true 2 (.error (.openingFailed .uiStopped)),
        .discarded 1, .returned false 1 (.error (.openingFailed .uiJobDropped))] := rfl
  have hanswered : .returned true 0 (.ok 2) ∈ s.log := by
    rw [hlog]
    simp
  have hstopped : .returned true 2 (.error (.openingFailed .uiStopped)) ∈ s.log := by
    rw [hlog]
    simp
  have hdropped : .returned false 1 (.error (.openingFailed .uiJobDropped)) ∈ s.log := by
    rw [hlog]
    simp
  obtain ⟨job, -, -, honce⟩ := hok _ _ _ _ _ hlog
  refine ⟨hanswered, ?_, hstopped, (herror _ _ _ hstopped).2.1, hdropped,
    (herror _ _ _ hdropped).2.1⟩
  rw [hlog, List.filterMap_append, honce]
  rfl

end RenderBridge
