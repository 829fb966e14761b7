import CompilerCommands.Discovery.Failure
import CompilerCommands.DryRun.Listing
import CompilerCommands.DryRun.Switches

/-!
# Dry runs

A driver is run with switches that make it list its jobs. What it prints is the list, unless it
could not be started, failed, or took too long.
-/

namespace CompilerCommands

def Toolchain.dryRunWords? (kind : Toolchain) (executable : String) (args : List String) :
    Option (List String) :=
  (kind.dryRunArgs? args).map (executable :: ·)

/-- What the result of a dry run says: the output with the jobs, or nothing if it was cancelled, or
why there is none. -/
def dryRunOutput (terms : Terms) (executable line : String) :
    RunResult → Except Failure (Option String)
  | .finished output status =>
    if status = 0 then .ok (some output)
    else .error (.error (.dryRunFailed (.exited line status output)))
  | .cancelled => .ok none
  | .timedOut limit => .error (.error (.dryRunFailed (.timedOut line limit)))
  | .refused error =>
    if error.isTimeout then
      match terms.limit with
      | some limit => .error (.error (.dryRunFailed (.timedOut line limit)))
      | none => .error .limitless
    else .error (.error (.toolchainNotFound executable (some error.message)))
  | .aborted => .error .aborted
  | .endless => .error .endless

/-- Logs what became of a dry run and reads its jobs. -/
def readJobs (kind : Toolchain) (executable line : String) (world : World) :
    Except Failure (Option String) → Except Failure (Option (List Job)) × World
  | .error failure => (.error failure, world)
  | .ok none => (.ok none, world.log .info .dryRun ("Dry run cancelled: " ++ line))
  | .ok (some output) =>
    let jobs := jobsOf kind output
    (.ok (some jobs), (world.logAll (recordsOf kind output)).log .debug .dryRun
      (executable ++ " planned " ++ toString jobs.length ++ " jobs"))

/-- Runs a driver in the directory `dir` to learn its jobs. There are none to learn if the call is
cancelled. -/
def discoverJobs (terms : Terms) (kind : Toolchain) (executable : String) (args : List String)
    (dir : Path) (world : World) : Except Failure (Option (List Job)) × World :=
  match kind.dryRunWords? executable args with
  | none => (.error .planless, world)
  | some words =>
    let line := Shell.quote words
    let (result, after) := run terms words dir (world.log .debug .dryRun ("Dry run: " ++ line))
    readJobs kind executable line after (dryRunOutput terms executable line result)

end CompilerCommands
