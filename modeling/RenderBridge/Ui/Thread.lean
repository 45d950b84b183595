import RenderBridge.Fault
/-!
The thread on which all work on the presentation surface is done, as a caller sees it: a job handed
to it is run there before the caller goes on, or it is not run and the caller is told so.
-/

set_option autoImplicit false

namespace RenderBridge

/-- How the UI thread takes jobs. -/
inductive UiThread
  /-- It runs them, under this name. -/
  | running (name : String)
  /-- It is gone and gives them back. -/
  | stopped
  /-- It takes them and drops them. -/
  | dropping
deriving DecidableEq

/-- The result of a job run on the UI thread; the job is given the thread's name. -/
def UiThread.run {α : Type} (ui : UiThread) (job : String → α) : Except Fault α :=
  match ui with
  | running name => .ok (job name)
  | stopped => .error (.openingFailed .uiStopped)
  | dropping => .error (.openingFailed .uiJobDropped)

end RenderBridge
