import CompilerCommands.Command.Basic
import CompilerCommands.Execution.Run

/-!
# Failures

How a call may end without a result.
-/

namespace CompilerCommands

inductive Failure where
  | error (cause : CommandError)
  /-- A dry run failed and nothing less than the jobs of `command` was wanted. -/
  | undiscovered (cause : DryRunError) (command : Command)
  /-- The toolchain plans no jobs. -/
  | planless
  /-- The system speaks of a time limit though there is none. -/
  | limitless
  | refused (error : StartError)
  | timedOut (name : String) (limit : TimeLimit)
  | aborted
  /-- Nothing ends the waiting. -/
  | endless
  /-- Drivers plan drivers, and so on, until the stack of calls gives out. -/
  | tooDeep
  | unknownName (name : String)
  /-- The command of that name is of another kind. -/
  | unsuited (name : String)

namespace Failure

def message : Failure → String
  | error cause => cause.message
  | undiscovered cause _ => cause.message
  | planless => "rustc does not plan jobs"
  | limitless => ""
  | refused e => e.message
  | timedOut name limit => name ++ " did not finish within " ++ limit.text ++ "s"
  | aborted => ""
  | endless => "nothing ends the waiting"
  | tooDeep => "drivers are nested too deep"
  | unknownName name => Text.quoted name
  | unsuited name => name ++ " is a command of another kind"

end Failure

/-- The result of a process that ran by itself. Nothing comes of a cancelled one. -/
def RunResult.toExcept (name : String) : RunResult → Except Failure (Option (String × Int))
  | finished output status => .ok (some (output, status))
  | cancelled => .ok none
  | refused error => .error (.refused error)
  | timedOut limit => .error (.timedOut name limit)
  | aborted => .error .aborted
  | endless => .error .endless

end CompilerCommands
