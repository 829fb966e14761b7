import CompilerCommands.Execution.Log
import CompilerCommands.Host.Basic

/-!
# Calls and the world they run in

A call starts processes one after another and waits for each. The world is the host with what has
happened since the call began: the time that has passed, whether the call has been cancelled, the
attempts to start a process, and the log.

A world takes words and environments as they come: none is refused before the program is looked for,
as systems refuse a word with a NUL in it or a variable with `=` in its name. And the end of a
process is the end of its output, which no process that it has started keeps open.
-/

namespace CompilerCommands

/-- The terms on which a call runs. -/
structure Terms where
  /-- How long to wait for one process. -/
  limit : Option TimeLimit := none
  /-- Variables for the processes, besides those of the host. -/
  extraEnv : Environment := {}
  /-- The call can be cancelled. -/
  cancellable : Bool := false
  /-- When it is cancelled. -/
  cancelAt : Option Ticks := none
  /-- When it is broken off. -/
  abortAt : Option Ticks := none
  deriving DecidableEq, Repr

/-- When the call is cancelled, if it can be. -/
def Terms.cancelTime? (terms : Terms) : Option Ticks :=
  if terms.cancellable then terms.cancelAt else none

structure Attempt where
  time : Ticks
  words : List String
  dir : Path
  env : Environment
  /-- The process was killed. -/
  killed : Bool
  deriving DecidableEq, Repr

structure World where
  host : Host
  now : Ticks := 0
  cancelled : Bool := false
  attempts : List Attempt := []
  records : List LogRecord := []

namespace World

def log (world : World) (level : LogLevel) (source : LogSource) (message : String) : World :=
  { world with records := world.records ++ [⟨level, source, message⟩] }

def logAll (world : World) (records : List LogRecord) : World :=
  { world with records := world.records ++ records }

/-- Time goes on to `time`. The call is cancelled if its time to be cancelled comes. -/
def advance (world : World) (terms : Terms) (time : Ticks) : World :=
  { world with
    now := time
    cancelled := world.cancelled || terms.cancelTime?.any fun t => decide (t ≤ time) }

def childEnv (world : World) (terms : Terms) : Environment :=
  world.host.env.override terms.extraEnv

end World

end CompilerCommands
