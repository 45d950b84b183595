import RenderBridge.Ui.Thread
/-!
The queue of jobs for the UI thread. Any thread sends jobs; the pump on the UI thread runs them one
at a time, in the order in which they were sent. Once the pump is gone jobs come back to the sender.

* `JobChannel.send`, `take?`, `dropPump`: the channel that the jobs go through.
* `UiQueue.dispatch`: sends a job.
* `UiQueue.runPending`: runs what is waiting, and what those jobs send in turn.
* `UiQueue.callFromElsewhere`: a job sent from another thread, whose value the sender waits for.
-/

set_option autoImplicit false

namespace RenderBridge

/-- A channel of jobs: those waiting, oldest first, and whether the pump is there. -/
structure JobChannel (J : Type) where
  waiting : List J := []
  pumpAlive : Bool := true
deriving DecidableEq

namespace JobChannel

variable {J : Type}

/-- Sends a job. Without a pump it comes back. -/
def send (q : JobChannel J) (job : J) : Option J × JobChannel J :=
  if q.pumpAlive then (none, { q with waiting := q.waiting ++ [job] }) else (some job, q)

/-- The oldest job that waits, and the channel without it. -/
def take? (q : JobChannel J) : Option (J × JobChannel J) :=
  match q.waiting with
  | [] => none
  | job :: rest => some (job, { q with waiting := rest })

/-- The channel after its pump is gone. What waits stays for now. -/
def dropPump (q : JobChannel J) : JobChannel J := { q with pumpAlive := false }

end JobChannel

/-- A job: it notes its number, sends one plain job for each of `follow`, and has a value. -/
structure UiJob where
  id : Int
  follow : List Int := []
  value : Int := 0
deriving DecidableEq

/-- The jobs on their way, and the numbers noted so far. -/
structure UiQueue extends JobChannel UiJob where
  noted : List Int := []
deriving DecidableEq

namespace UiQueue

/-- Sends a job. Without a pump it comes back. -/
def dispatch (q : UiQueue) (job : UiJob) : Option UiJob × UiQueue :=
  let (back, channel) := q.toJobChannel.send job
  (back, { q with toJobChannel := channel })

/-- Sends jobs that nobody takes back. -/
def dispatchAll (q : UiQueue) (ids : List Int) : UiQueue :=
  ids.foldl (fun q id => (q.dispatch { id }).2) q

/-- Runs a job on the spot. -/
def runHere (q : UiQueue) (job : UiJob) : Int × UiQueue :=
  (job.value, { q with noted := q.noted ++ [job.id] }.dispatchAll job.follow)

/-- The number of jobs that wait or will be sent by those that do. -/
def outstanding (q : UiQueue) : Nat :=
  q.waiting.foldr (fun job n => 1 + job.follow.length + n) 0

/-- Runs up to so many jobs, and counts them. -/
def runUpTo : Nat → UiQueue → Nat × UiQueue
  | 0, q => (0, q)
  | n + 1, q =>
    match q.toJobChannel.take? with
    | none => (0, q)
    | some (job, channel) =>
      let (ran, q) := runUpTo n ({ q with toJobChannel := channel }.runHere job).2
      (ran + 1, q)

/-- Runs all that is waiting; none where the pump is gone. -/
def runPending (q : UiQueue) : Option Nat × UiQueue :=
  if q.pumpAlive then
    let (ran, q) := q.runUpTo q.outstanding
    (some ran, q)
  else (none, q)

/-- Takes the pump away. The answer says whether it was there. What waits is never run. -/
def dropPump (q : UiQueue) : Bool × UiQueue :=
  (q.pumpAlive, { q with toJobChannel := { q.toJobChannel.dropPump with waiting := [] } })

/-- The value of a job sent from another thread. All that waits before it runs first. -/
def callFromElsewhere (q : UiQueue) (job : UiJob) : Except Fault Int × UiQueue :=
  match q.dispatch job with
  | (some _, q) => (.error (.openingFailed .uiStopped), q)
  | (none, q) => (.ok job.value, q.runPending.2)

end UiQueue

end RenderBridge
