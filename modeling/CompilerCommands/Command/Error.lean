import CompilerCommands.Execution.Time
import CompilerCommands.Shell.Quote
import CompilerCommands.Text.Quoted

/-!
# Errors

What can be wrong with a command line, with the tool that it names, and with the dry run of that
tool. Each has one text.
-/

namespace CompilerCommands

/-- Why a line is no command line. -/
inductive LineError where
  | unfinished (line : String) (cause : Shell.Unfinished)
  | empty
  /-- In the words of whoever found it. -/
  | other (text : String)
  deriving DecidableEq, Repr

def LineError.message : LineError → String
  | unfinished line cause =>
    "Cannot parse command line " ++ Text.quoted line ++ ": " ++ cause.message
  | empty => "Empty command line"
  | other text => text

/-- Why a dry run says nothing about the jobs. -/
inductive DryRunError where
  | exited (line : String) (status : Int) (output : String)
  | timedOut (line : String) (limit : TimeLimit)
  /-- In the words of whoever found it. -/
  | other (text : String)
  deriving DecidableEq, Repr

def DryRunError.message : DryRunError → String
  | exited line status output =>
    let head := line ++ "\nexited with status " ++ toString status
    if output.isEmpty then head else head ++ "\nOUTPUT====\n" ++ output
  | timedOut line limit => line ++ "\ntimed out after " ++ limit.text ++ "s"
  | other text => text

inductive CommandError where
  | malformedLine (cause : LineError)
  | unsupportedToolchain (executable : String)
  | toolchainNotFound (executable : String) (reason : Option String)
  | dryRunFailed (cause : DryRunError)
  /-- In the words of whoever found it. -/
  | other (text : String)
  deriving DecidableEq, Repr

namespace CommandError

def message : CommandError → String
  | malformedLine cause => cause.message
  | unsupportedToolchain executable => "Unsupported toolchain: " ++ executable
  | toolchainNotFound executable reason =>
    let head := executable ++ " is not in PATH or not executable"
    match reason with
    | none => head
    | some reason => if reason.isEmpty then head else head ++ " (" ++ reason ++ ")"
  | dryRunFailed cause => cause.message
  | other text => text

def executable? : CommandError → Option String
  | unsupportedToolchain executable | toolchainNotFound executable _ => some executable
  | _ => none

end CommandError

/-- The words of a command line, or what is wrong with it. -/
def tokenize (line : String) : Except CommandError (List String) :=
  match Shell.words line with
  | .ok words => .ok words
  | .error cause => .error (.malformedLine (.unfinished line cause))

end CompilerCommands
