import RenderBridge.Log.Filter
/-!
Installing the logger of a process. It happens once; later calls change nothing. A logger that the
host has installed before stays, and is told so.

* `LogState.install`: the state after a call.
* `LogState.maxLevel`, `logs`: what is logged.
-/

set_option autoImplicit false

namespace RenderBridge

/-- A record as the host's logger receives it. -/
structure LogRecord where
  level : LogLevel
  target : String
  message : String
deriving DecidableEq

/-- The logger of a process. A host's own logger accepts everything. -/
structure LogState where
  hostLogger : Bool := false
  /-- Whether a call was made before. -/
  called : Bool := false
  filter : Option LogFilter := none
  hostRecords : List LogRecord := []
deriving DecidableEq

namespace LogState

/-- The filter where none is asked for: the device's internals from warnings on, all else from
information on. -/
def defaultFilter : LogFilter :=
  .ofDirectives [⟨none, .info⟩, ⟨some "wgpu_core", .warn⟩, ⟨some "wgpu_hal", .warn⟩]

/-- The filter asked for by the call, else by the environment, else the default. -/
def chooseFilter (requested environment : Option String) : LogFilter :=
  match requested.or environment with
  | some text => .ofText text
  | none => defaultFilter

/-- What the host's logger is told where it stays. -/
def skipped : LogRecord :=
  ⟨.debug, "kiln_engine::logging::init", "logger already installed; kiln logging init skipped"⟩

/-- Installs the logger, on the first call and where the host has none. -/
def install (s : LogState) (requested environment : Option String) : LogState :=
  if s.called then s
  else if s.hostLogger then { s with called := true, hostRecords := s.hostRecords ++ [skipped] }
  else { s with called := true, filter := some (chooseFilter requested environment) }

def maxLevel (s : LogState) : LogLevel :=
  if s.hostLogger then .trace
  else match s.filter with
    | some filter => filter.maxLevel
    | none => .off

/-- Whether a record is logged. -/
def logs (s : LogState) (target : String) (level : LogLevel) : Bool :=
  level.rank ≤ s.maxLevel.rank &&
    (s.hostLogger || (s.filter.map fun filter => filter.enabled target level).getD false)

end LogState

end RenderBridge
