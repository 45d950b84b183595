import RenderBridge.Proofs.Gpu.Recording
/-!
Frames and encoders on a graphics machine, over whole runs.

* `Op.unit_of_forms`: a clear, and a draw whose state is resolved, makes the calls of one unit.
* `Op.settled_of_not_forms`: everything else leaves no encoder over. Textures are shown by `present`
  and given up by `resize` only.
* `Step.settled`, `Step.run_settled`: every step leaves no encoder over, and so does every run.
* `Step.held_or_givesUp`: a texture that is held stays held until it is shown or given up.
* `frames_and_encoders`: **in every run** no encoder is left over, every unit is one submission, and
  the textures of the surface come and go one at a time.
-/

set_option autoImplicit false

namespace RenderBridge

/-! ### Calls in a row -/

namespace Linked

/-- What every call does, calls in a row do. -/
lemma compose {R : GpuDevice → List GpuEvent → GpuDevice → Prop} (refl : ∀ d, R d [] d)
    (trans : ∀ {d events d' events' d''}, R d events d' → R d' events' d'' →
      R d (events ++ events') d'')
    (calls : ∀ {d events d'}, R d events d' → d.Calls events d') {d d' : GpuDevice}
    {es : List GpuExchange} (h : Linked d es d')
    (hstep : ∀ e ∈ es, ∀ d, ∃ events, R d events (e.request.perform d).2) :
    R d (es.flatMap (·.events)) d' := by
  induction es generalizing d with
  | nil =>
    obtain rfl : d = d' := h
    exact refl d
  | cons e es ih =>
    obtain ⟨he, hrest⟩ := h
    obtain ⟨events, hevents⟩ := hstep e List.mem_cons_self d
    have hafter : (e.request.perform d).2 = e.after := (congrArg Exchange.after he).symm
    have hbefore : e.before = d := congrArg Exchange.before he
    rw [hafter] at hevents
    have hcalled : e.events = events :=
      Exchange.events_of_log (by rw [hbefore]; exact (calls hevents).log)
    rw [List.flatMap_cons, hcalled]
    exact trans hevents (ih hrest fun e he => hstep e (List.mem_cons_of_mem _ he))

end Linked

/-! ### Operations -/

namespace GpuDevice

lemma idle_compiling (request : Call) (hkind : request.kind = .compiling) (d : GpuDevice) :
    ∃ events, Idle d events (request.perform d).2 := by
  cases request with
  | compilePipeline key layout => exact idle_compilePipeline key layout d
  | compileDepthStencil key => exact ⟨[], .refl d⟩
  | _ => cases hkind

lemma Encoding.calls {d d' : GpuDevice} {events : List GpuEvent} {draws : ℕ}
    (h : Encoding d events d' draws) : Calls d events d' := by
  cases h with
  | skipped calls => exact calls.toCalls
  | recorded calls => exact calls

end GpuDevice

namespace Op

variable {op : Op} {c : GpuContext} {request : GpuDevice.Call} {d : GpuDevice}

/-- The calls on the machine that an operation makes. -/
def events (op : Op) (c : GpuContext) : List GpuEvent := (op.exchanges c).flatMap (·.events)

/-- An operation with a unit of work makes the calls of one unit. It draws once where it is a draw
that is encoded and not clipped, and else not at all. -/
theorem unit_of_forms (h : op.Forms c request d) (hencoder : c.device.encoder = none) :
    ∃ draws, c.device.Calls (op.events c) (op.apply c).2.device ∧
      (op.apply c).2.device.encoder = none ∧ UnitCalls (op.events c) draws ∧ draws ≤ 1 ∧
      (draws = 1 ↔ ∃ config call, request = .encodeDraw config call ∧
        request.failure d = none ∧ ¬ config.Clipped d) := by
  obtain ⟨compiled, hcompiled, hexchanges, hbefore, hafter⟩ := linked_of_forms h
  have hkind : request.kind ∈ [CallKind.clearing, .drawing] := by
    cases h <;> simp [Request.kind]
  -- The unit is encoded on the device that compiling leaves, and submitted on the one after that.
  have hafter : (request.perform d).2.submit = (op.apply c).2.device := hafter
  have hidle := hbefore.compose (R := GpuDevice.Idle) .refl .trans (·.toCalls) fun e he =>
    GpuDevice.idle_compiling e.request (hcompiled e he)
  obtain ⟨events, draws, hencoding, hle, hiff⟩ :=
    GpuDevice.encoding_perform request hkind (hidle.encoder.trans hencoder)
  obtain ⟨rest, hcalls, hnone, hunit⟩ := (hencoding.prepend hidle.prelude).submit hencoder
  have hencoded : (Exchange.of request d).events = events :=
    Exchange.events_of_log hencoding.calls.log
  have hsubmitted : (Exchange.of .submit (request.perform d).2 : GpuExchange).events = rest := by
    refine Exchange.events_of_log ?_
    change (request.perform d).2.submit.recorder.log = (request.perform d).2.recorder.log ++ rest
    rw [hcalls.log, (hencoding.prepend hidle.prelude).calls.log, ← List.append_assoc]
  have hevents : op.events c = compiled.flatMap (·.events) ++ events ++ rest := by
    rw [Op.events, hexchanges, List.flatMap_append, List.flatMap_cons, List.flatMap_singleton,
      hencoded, hsubmitted, List.append_assoc]
  rw [hevents, ← hafter]
  exact ⟨draws, hcalls, hnone, hunit, hle, hiff⟩

/-- What an operation without a unit may do to the textures of the surface. -/
def MayMove (op : Op) (e : GpuEvent) : Prop :=
  (∃ number, e = .present number ∧ op = .present) ∨
    ∃ number width height scale fullscreen, e = .discard number ∧
      op = .resize width height scale fullscreen

/-- An operation without a unit leaves no encoder over. It leaves the textures of the surface alone,
but for one that `present` shows, and one that `resize` gives up. -/
theorem settled_of_not_forms (h : ∀ request d, ¬ op.Forms c request d) :
    c.device.Settled (op.events c) (op.apply c).2.device ∧
      ∀ e ∈ op.events c, e.MovesTexture → op.MayMove e := by
  obtain ⟨hlinked, hcalls⟩ := op.linked_exchanges c
  refine hlinked.compose (R := fun d events d' => d.Settled events d' ∧
      ∀ e ∈ events, e.MovesTexture → op.MayMove e)
    (fun d => ⟨(GpuDevice.Idle.refl d).settled, List.forall_mem_nil _⟩)
    (fun h h' => ⟨h.1.trans h'.1, List.forall_mem_append.mpr ⟨h.2, h'.2⟩⟩)
    (fun h => h.1.toCalls) fun e he d => ?_
  obtain ⟨events, hsettled, hmoves⟩ :=
    GpuDevice.settled_perform e.request d (kind_of_not_forms h e he)
  refine ⟨events, hsettled, fun event hevent hmoved => ?_⟩
  have hkind := hcalls e he
  rcases hmoves event hevent hmoved with ⟨number, rfl, heq⟩ | ⟨number, rfl, heq⟩
  · rw [heq] at hkind
    cases op with
    | present => exact .inl ⟨number, rfl, rfl⟩
    | _ => simp [calls] at hkind
  · rw [heq] at hkind
    cases op with
    | resize width height scale fullscreen =>
      exact .inr ⟨number, width, height, scale, fullscreen, rfl, rfl⟩
    | _ => simp [calls] at hkind

/-- Every operation leaves no encoder over. -/
theorem settled (op : Op) (hencoder : c.device.encoder = none) :
    c.device.Settled (op.events c) (op.apply c).2.device := by
  by_cases h : ∃ request d, op.Forms c request d
  · obtain ⟨request, d, h⟩ := h
    obtain ⟨draws, hcalls, hnone, hunit, -⟩ := unit_of_forms h hencoder
    exact ⟨hcalls, hnone.trans hencoder.symm, hunit.submitted⟩
  · exact (settled_of_not_forms fun request d hforms => h ⟨request, d, hforms⟩).1

/-- Textures are shown by `present` and given up by `resize`, in operations that ask for none. -/
lemma mayMove_of_returned {e : GpuEvent} (hencoder : c.device.encoder = none)
    (he : e ∈ op.events c) (hreturned : e.ReturnsTexture) :
    op.MayMove e ∧ ∀ e ∈ op.events c, e.AsksForTexture = false := by
  have hforms : ∀ request d, ¬ op.Forms c request d := by
    intro request d h
    obtain ⟨draws, -, -, hunit, -⟩ := unit_of_forms h hencoder
    rw [hunit.not_returnsTexture e he] at hreturned
    cases hreturned
  obtain ⟨-, hmoves⟩ := settled_of_not_forms hforms
  refine ⟨hmoves e he (by rw [GpuEvent.MovesTexture, hreturned, Bool.or_true]), fun e he => ?_⟩
  rw [Bool.eq_false_iff]
  intro hasks
  rcases hmoves e he (by rw [GpuEvent.MovesTexture, hasks, Bool.true_or]) with
    ⟨number, rfl, -⟩ | ⟨number, _, _, _, _, rfl, -⟩
  · cases hasks
  · cases hasks

/-- The texture that is held is shown, if there is one; nothing else is called. -/
lemma events_present (c : GpuContext) :
    events .present c = c.device.frame.toList.map .present := by
  change (Exchange.of .present c.device : GpuExchange).events ++ [] = _
  rw [List.append_nil]
  exact Exchange.events_of_log c.device.settled_present.log

end Op

/-! ### Runs -/

namespace Step

variable {steps : List (Step MachineAnswers)} {c : GpuContext} {number : ℕ}

/-- The calls on the machine that a step makes. -/
def events (step : Step MachineAnswers) (c : GpuContext) : List GpuEvent :=
  (step.exchanges c).flatMap (·.events)

/-- The calls on the machine that a run makes. -/
def runEvents (steps : List (Step MachineAnswers)) (c : GpuContext) : List GpuEvent :=
  (trace steps c).flatMap (·.events)

lemma runEvents_cons (step : Step MachineAnswers) (steps : List (Step MachineAnswers))
    (c : GpuContext) :
    runEvents (step :: steps) c = step.events c ++ runEvents steps (step.apply c) := by
  rw [runEvents, trace_cons, List.flatMap_append]
  rfl

/-- Every step leaves no encoder over. -/
lemma settled (step : Step MachineAnswers) (hencoder : c.device.encoder = none) :
    c.device.Settled (step.events c) (step.apply c).device := by
  cases step with
  | perform op => exact op.settled hencoder
  | adjust answers =>
    have hidle : c.device.Idle [] ((adjust answers : Step MachineAnswers).apply c).device :=
      .of_log (List.append_nil _).symm rfl rfl rfl rfl
    exact hidle.settled
  | setUi _ | setHost _ => exact (GpuDevice.Idle.refl c.device).settled

/-- Every run leaves no encoder over. -/
theorem run_settled (steps : List (Step MachineAnswers)) (hencoder : c.device.encoder = none) :
    c.device.Settled (runEvents steps c) (run steps c).device := by
  induction steps generalizing c with
  | nil => exact (GpuDevice.Idle.refl c.device).settled
  | cons step steps ih =>
    have hstep := step.settled hencoder
    rw [runEvents_cons, run_cons]
    exact hstep.trans (ih (hstep.encoder.trans hencoder))

/-- Only operations call the machine. -/
lemma exists_op_of_mem_events {step : Step MachineAnswers} {e : GpuEvent}
    (he : e ∈ step.events c) : ∃ op, step = .perform op ∧ e ∈ op.events c := by
  cases step with
  | perform op => exact ⟨op, rfl, he⟩
  | adjust answers => cases he
  | setUi _ | setHost _ => cases he

/-- What a run calls is called by one of its steps. -/
lemma exists_step_of_mem_runEvents {e : GpuEvent} (he : e ∈ runEvents steps c) :
    ∃ before step after, steps = before ++ step :: after ∧ e ∈ step.events (run before c) := by
  induction steps generalizing c with
  | nil => cases he
  | cons step steps ih =>
    rw [runEvents_cons] at he
    rcases List.mem_append.mp he with he | he
    · exact ⟨[], step, steps, rfl, he⟩
    · obtain ⟨before, step', after, rfl, hcalled⟩ := ih he
      exact ⟨step :: before, step', after, rfl, hcalled⟩

/-- A resize within a run gives a texture up. -/
def GivesUp (number : ℕ) (steps : List (Step MachineAnswers)) (c : GpuContext) : Prop :=
  ∃ before width height scale fullscreen after,
    steps = before ++ .perform (.resize width height scale fullscreen) :: after ∧
      .discard number ∈ (Op.resize width height scale fullscreen).events (run before c)

/-- A texture that is held is still held after a run that does not present, or a resize gave it
up. -/
theorem held_or_givesUp (hencoder : c.device.encoder = none)
    (hheld : c.device.frame = some number) (hshown : .perform .present ∉ steps) :
    (run steps c).device.frame = some number ∨ GivesUp number steps c := by
  have hreturned : ∀ e ∈ runEvents steps c, e.ReturnsTexture →
      ∃ before op after, steps = before ++ .perform op :: after ∧ e ∈ op.events (run before c) ∧
        op.MayMove e := by
    intro e he hreturns
    obtain ⟨before, step, after, hsteps, hstep⟩ := exists_step_of_mem_runEvents he
    obtain ⟨op, rfl, hop⟩ := exists_op_of_mem_events hstep
    have hnone := (run_settled before hencoder).encoder.trans hencoder
    exact ⟨before, op, after, hsteps, hop, (Op.mayMove_of_returned hnone hop hreturns).1⟩
  rcases (run_settled steps hencoder).textures.held_or_returned hheld with hheld | hmem | hmem
  · exact .inl hheld
  · obtain ⟨before, op, after, hsteps, -, ⟨_, -, rfl⟩ | ⟨_, _, _, _, _, heq, -⟩⟩ :=
      hreturned _ hmem rfl
    · exact absurd (by rw [hsteps]; exact List.mem_append_right _ List.mem_cons_self) hshown
    · cases heq
  · obtain ⟨before, op, after, hsteps, he, ⟨_, heq, -⟩ | ⟨_, w, h, s, f, -, rfl⟩⟩ :=
      hreturned _ hmem rfl
    · cases heq
    · exact .inr ⟨before, w, h, s, f, after, hsteps, he⟩

/-- A texture that a step acquires is held after it. -/
lemma held_of_acquire {step : Step MachineAnswers} (hencoder : c.device.encoder = none)
    (hacquired : .acquire number ∈ step.events c) :
    (step.apply c).device.frame = some number := by
  refine (step.settled hencoder).textures.held_of_acquire hacquired fun e he => ?_
  rw [Bool.eq_false_iff]
  intro hreturned
  obtain ⟨op, rfl, he⟩ := exists_op_of_mem_events he
  cases (Op.mayMove_of_returned hencoder he hreturned).2 _ hacquired

end Step

lemma GpuDevice.encoder_resizeTargets (width height : ℕ) (d : GpuDevice) :
    (resizeTargets width height d).2.encoder = d.encoder := by
  obtain ⟨events, hsettled, -⟩ := settled_resizeTargets width height d
  exact hsettled.encoder

/-- A context that is opened has no encoder. -/
lemma Context.no_encoder_of_open {config : Config} {ui : UiThread} {script : GpuScript}
    {init : GpuInit} {world : Recorder} {c : GpuContext}
    (h : Context.openWith config ui (GpuDevice.factory script init) world = .ok c) :
    c.device.encoder = none := by
  obtain ⟨r, d, hresize, rfl⟩ := device_of_open h
  have hencoder := GpuDevice.encoder_resizeTargets config.width.toNat config.height.toNat
    (GpuDevice.assemble config init r)
  rw [hresize] at hencoder
  exact hencoder

/-- **Frames and encoders are never left over.** Take any run of a context that was opened on a
graphics machine, with any answers to requests for textures and any pipelines rejected. Then

* no encoder is pending, on the device or among the calls on the machine;
* a clear, and a draw whose state is resolved, makes exactly one submission, of at most one command
  buffer with at most one pass, and in it one draw call for a draw that is encoded and not clipped,
  and none otherwise;
* a texture is requested only while none is out, so at most one is out at any time;
* no texture is acquired twice, and none is shown twice, or shown and given up. The one that a step
  acquires is shown by the first `present` after it, unless a resize gave it up between them;
* `present` calls nothing while no texture is out. -/
theorem frames_and_encoders {config : Config} {ui : UiThread} {script : GpuScript} {init : GpuInit}
    {world : Recorder} {c₀ : GpuContext}
    (hopen : Context.openWith config ui (GpuDevice.factory script init) world = .ok c₀)
    (steps : List (Step MachineAnswers)) :
    let c := Step.run steps c₀
    let earlier := Step.runEvents steps c₀
    c.device.recorder.log = c₀.device.recorder.log ++ earlier ∧
    (c.device.encoder = none ∧ unsubmitted [] earlier = []) ∧
    (∀ (op : Op) request d, op.Forms c request d →
      ∃ draws, UnitCalls (op.events c) draws ∧ draws ≤ 1 ∧
        (draws = 1 ↔ ∃ config call, request = .encodeDraw config call ∧
          request.failure d = none ∧ ¬ config.Clipped d)) ∧
    (∀ before after, earlier = before ++ after → (unreturned [] before).length ≤ 1) ∧
    (∀ before e after, earlier = before ++ e :: after → e.AsksForTexture →
      unreturned [] before = []) ∧
    (∀ number, earlier.count (.acquire number) ≤ 1 ∧
      earlier.count (.present number) + earlier.count (.discard number) ≤ 1) ∧
    (∀ number first step middle, steps = first ++ step :: middle →
      .acquire number ∈ step.events (Step.run first c₀) → .perform .present ∉ middle →
        Op.events .present c = [.present number] ∨
          Step.GivesUp number middle (Step.run (first ++ [step]) c₀)) ∧
    (unreturned [] earlier = [] → Op.events .present c = []) := by
  intro c earlier
  have hencoder := Context.no_encoder_of_open hopen
  have hunheld : c₀.device.textureState.held = none := Context.unheld_of_open hopen
  have hrun := Step.run_settled steps hencoder
  have htextures : TextureCalls c₀.device.textureState earlier c.device.textureState :=
    hrun.textures
  have hnone : c.device.encoder = none := hrun.encoder.trans hencoder
  have hout := htextures.unreturned_eq
  rw [hunheld] at hout
  refine ⟨hrun.log, ⟨hnone, hrun.submitted []⟩, ?_, ?_, ?_, ?_, ?_, ?_⟩
  · intro op request d hforms
    obtain ⟨draws, -, -, hunit, hle, hiff⟩ := Op.unit_of_forms hforms hnone
    exact ⟨draws, hunit, hle, hiff⟩
  · intro before after hsplit
    have hle := (hsplit ▸ htextures).length_unreturned_le
    rw [hunheld] at hle
    exact hle
  · intro before e after hsplit hasks
    have hreturned := (hsplit ▸ htextures).unreturned_of_asks hasks
    rw [hunheld] at hreturned
    exact hreturned
  · exact fun number => ⟨htextures.count_acquire_le,
      htextures.returns_le fun held hheld => by cases hunheld.symm.trans hheld⟩
  · rintro number first step middle rfl hacquired hshown
    have hbefore := (Step.run_settled first hencoder).encoder.trans hencoder
    have hheld := Step.held_of_acquire hbefore hacquired
    have hafter := (step.settled hbefore).encoder.trans hbefore
    have hrun : c = Step.run middle (step.apply (Step.run first c₀)) := Step.run_append ..
    rw [Op.events_present, hrun, Step.run_append]
    refine (Step.held_or_givesUp hafter hheld hshown).imp (fun hheld => ?_) id
    rw [hheld]
    rfl
  · intro hreturned
    rw [Op.events_present]
    have hframe : c.device.frame.toList = [] := hout.symm.trans hreturned
    rw [hframe]
    rfl

/-- A clear in opaque black. -/
def blackOut : Step MachineAnswers := .perform (.clear ⟨.zero, .zero, .zero, .one⟩)

/-- A clear that gets no texture. -/
def timedOutRun : List (Step MachineAnswers) := [.adjust { acquire := [.timeout] }, blackOut]

/-- After a clear that gets no texture, two clears share one, and `present` shows it. -/
theorem frames_and_encoders_sharedTexture :
    ∃ c : GpuContext,
      Context.openWith {} (.running "main") (GpuDevice.factory {} {}) {} = .ok c ∧
      .acquireFailed .timeout ∈ Step.runEvents timedOutRun c ∧
      .acquire 1 ∈ blackOut.events (Step.run timedOutRun c) ∧
      (let steps := timedOutRun ++ blackOut :: [blackOut]
       (Step.run steps c).device.encoder = none ∧
        unsubmitted [] (Step.runEvents steps c) = [] ∧
        Op.events .present (Step.run steps c) = [.present 1]) := by
  have hcalls : (Context.openWith {} (.running "main") (GpuDevice.factory {} {})
      {}).toOption.map (fun c : GpuContext =>
        decide (.acquireFailed .timeout ∈ Step.runEvents timedOutRun c ∧
          .acquire 1 ∈ blackOut.events (Step.run timedOutRun c))) = some true := by
    decide +kernel
  obtain ⟨c, hopen⟩ : ∃ c : GpuContext,
      Context.openWith {} (.running "main") (GpuDevice.factory {} {}) {} = .ok c := ⟨_, rfl⟩
  rw [hopen] at hcalls
  obtain ⟨hrefused, hacquired⟩ := of_decide_eq_true (Option.some.inj hcalls)
  obtain ⟨-, ⟨hnone, hsubmitted⟩, -, -, -, -, hshown, -⟩ :=
    frames_and_encoders hopen (timedOutRun ++ blackOut :: [blackOut])
  refine ⟨c, hopen, hrefused, hacquired, hnone, hsubmitted, ?_⟩
  have hunshown : .perform .present ∉ [blackOut] := by simp [blackOut]
  refine (hshown 1 timedOutRun blackOut [blackOut] rfl hacquired hunshown).resolve_right ?_
  rintro ⟨before, width, height, scale, fullscreen, after, hresize, -⟩
  have hmem : Step.perform (.resize width height scale fullscreen) ∈ [blackOut] := by
    rw [hresize]
    exact List.mem_append_right _ List.mem_cons_self
  cases List.mem_singleton.mp hmem

end RenderBridge
