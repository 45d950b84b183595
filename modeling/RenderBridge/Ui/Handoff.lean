import Mathlib.Logic.Function.Basic
import RenderBridge.Ui.Queue
/-!
Calls from any number of threads that hand a job to the UI thread and wait for its value. All jobs
go through one channel, in which the pump on the UI thread finds them; the value of each comes back
on a channel of its own. Between any two steps of a thread others may take theirs.

* `CallerStage`, `PumpStage`: how far a thread has come in its call, and the pump with its jobs.
* `Handoff.advance`, `pumpNext`: the next step of a caller and of the pump.
* `Handoff.step`, `run`: moves of all threads, in any order, with what happened so far.
-/

set_option autoImplicit false

namespace RenderBridge

variable {ι β : Type}

/-- A job on its way to the UI thread, with the number of the call that waits for its value. The job
is given the name of the thread that runs it. -/
structure Parcel (β : Type) where
  call : Nat
  job : String → β

/-- The channel on which a call waits: the value once it is sent, and whether the job that is to
send it is still there. -/
structure ReplyChannel (β : Type) where
  value : Option β := none
  jobAlive : Bool := true

/-- What a call gets from its channel; none while it has to wait. -/
def ReplyChannel.receive (r : ReplyChannel β) : Option (Except Fault β) :=
  match r.value, r.jobAlive with
  | some value, _ => some (.ok value)
  | none, true => none
  | none, false => some (.error (.openingFailed .uiJobDropped))

/-- How far a thread has come in a call. -/
inductive CallerStage (β : Type)
  /-- It is in no call. -/
  | outside
  | sending (parcel : Parcel β)
  /-- Its job was sent; it waits for the value. -/
  | receiving (call : Nat)

/-- How long the pump goes on. -/
inductive PumpLoop
  /-- Until nothing is waiting. -/
  | untilEmpty
  /-- Until nobody is left who could send; then the pump goes, too. -/
  | untilClosed
deriving DecidableEq

/-- What the pump is at. -/
inductive PumpStage (β : Type)
  | idle
  /-- It looks for the next job. -/
  | looking (loop : PumpLoop)
  | running (loop : PumpLoop) (parcel : Parcel β)
  /-- A job has run; its value is to be sent. -/
  | replying (loop : PumpLoop) (call : Nat) (value : β)
  /-- The value was sent; what is left of the job is to be dropped. -/
  | releasing (loop : PumpLoop) (call : Nat)

/-- What happens to calls and jobs. -/
inductive HandoffEvent (ι β : Type)
  | begun (caller : ι) (parcel : Parcel β)
  | sent (call : Nat)
  /-- The job of a call starts to run. -/
  | started (call : Nat)
  | finished (call : Nat) (value : β)
  /-- The job of a call is dropped before it has run. -/
  | discarded (call : Nat)
  | returned (caller : ι) (call : Nat) (answer : Except Fault β)

/-- The callers, the UI thread and the channels between them. -/
structure Handoff (ι β : Type) where
  /-- The name of the UI thread. -/
  thread : String
  channel : JobChannel (Parcel β) := {}
  pump : PumpStage β := .idle
  /-- Whether anybody is left who could call. -/
  queueAlive : Bool := true
  /-- The number of calls so far, and of those that returned. -/
  calls : Nat := 0
  ended : Nat := 0
  caller : ι → CallerStage β := fun _ => .outside
  reply : Nat → ReplyChannel β := fun _ => {}
  /-- What happened so far, the oldest first. -/
  log : List (HandoffEvent ι β) := []

/-- What is done at one time. -/
inductive HandoffMove (ι β : Type)
  /-- A thread begins a call. -/
  | call (caller : ι) (job : String → β)
  /-- A thread takes the next step of its call. -/
  | advance (caller : ι)
  | startPump (loop : PumpLoop)
  /-- The pump takes its next step. -/
  | pump
  | dropPump
  /-- The last handle on the queue is dropped. -/
  | dropQueue
  /-- A job that waits for a pump that is gone is dropped. -/
  | discard

namespace Handoff

variable [DecidableEq ι]

def note (s : Handoff ι β) (event : HandoffEvent ι β) : Handoff ι β :=
  { s with log := s.log ++ [event] }

def put (s : Handoff ι β) (i : ι) (stage : CallerStage β) : Handoff ι β :=
  { s with caller := Function.update s.caller i stage }

def setReply (s : Handoff ι β) (call : Nat) (reply : ReplyChannel β) : Handoff ι β :=
  { s with reply := Function.update s.reply call reply }

/-- A call returns. -/
def answer (s : Handoff ι β) (i : ι) (call : Nat) (answer : Except Fault β) : Handoff ι β :=
  ({ s with ended := s.ended + 1 }.put i .outside).note (.returned i call answer)

/-- A thread begins a call. Every call has a number of its own. -/
def begin (s : Handoff ι β) (i : ι) (job : String → β) : Handoff ι β :=
  let parcel : Parcel β := ⟨s.calls, job⟩
  ({ s with calls := s.calls + 1 }.put i (.sending parcel)).note (.begun i parcel)

/-- The next step of a caller: the job is sent, then its value received. A call whose job comes back
fails at once. -/
def advance (s : Handoff ι β) (i : ι) : Handoff ι β :=
  match s.caller i with
  | .outside => s
  | .sending parcel =>
    match s.channel.send parcel with
    | (none, channel) =>
      ({ s with channel }.put i (.receiving parcel.call)).note (.sent parcel.call)
    | (some parcel, channel) =>
      { s with channel }.answer i parcel.call (.error (.openingFailed .uiStopped))
  | .receiving call =>
    match (s.reply call).receive with
    | some answer => s.answer i call answer
    | none => s

/-- The next step of the pump: the oldest job is taken, run to its end, its value sent and what is
left of it dropped, before the next one is looked for. -/
def pumpNext (s : Handoff ι β) : Handoff ι β :=
  match s.pump with
  | .idle => s
  | .looking loop =>
    match s.channel.take?, loop with
    | some (parcel, channel), _ =>
      { s with channel, pump := .running loop parcel }.note (.started parcel.call)
    | none, .untilEmpty => { s with pump := .idle }
    | none, .untilClosed =>
      if s.queueAlive then s else { s with pump := .idle, channel := s.channel.dropPump }
  | .running loop parcel =>
    let value := parcel.job s.thread
    { s with pump := .replying loop parcel.call value }.note (.finished parcel.call value)
  | .replying loop call value =>
    { s with pump := .releasing loop call }.setReply call { s.reply call with value := some value }
  | .releasing loop call =>
    { s with pump := .looking loop }.setReply call { s.reply call with jobAlive := false }

/-- The hand-off after a move. A pump that is at work is not dropped, and neither is the last handle
during a call; what is not possible does nothing. -/
def step (s : Handoff ι β) : HandoffMove ι β → Handoff ι β
  | .call i job =>
    match s.caller i with
    | .outside => if s.queueAlive then s.begin i job else s
    | _ => s
  | .advance i => s.advance i
  | .startPump loop =>
    match s.pump with
    | .idle => if s.channel.pumpAlive then { s with pump := .looking loop } else s
    | _ => s
  | .pump => s.pumpNext
  | .dropPump =>
    match s.pump with
    | .idle => { s with channel := s.channel.dropPump }
    | _ => s
  | .dropQueue => if s.ended = s.calls then { s with queueAlive := false } else s
  | .discard =>
    if s.channel.pumpAlive then s
    else
      match s.channel.take? with
      | some (parcel, channel) =>
        ({ s with channel }.setReply parcel.call
          { s.reply parcel.call with jobAlive := false }).note (.discarded parcel.call)
      | none => s

/-- The hand-off after a list of moves. -/
def run (moves : List (HandoffMove ι β)) (s : Handoff ι β) : Handoff ι β := moves.foldl step s

end Handoff

end RenderBridge
