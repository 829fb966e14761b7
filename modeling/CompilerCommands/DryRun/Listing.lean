import CompilerCommands.Command.Error
import CompilerCommands.Execution.Log
import CompilerCommands.Job.Role
import CompilerCommands.Text.Blank
import CompilerCommands.Text.Lines

/-!
# What a dry run prints

Each line is read by itself: it shows a job, or something else, or a job that cannot be read.
clang and GCC indent the jobs, nvcc puts `#$` in front of them and of the variables it sets.
-/

namespace CompilerCommands

/-- Sets a variable of the environment. -/
def isAssignment (job : String) : Bool :=
  match Text.cut '=' job.toList with
  | (first :: rest, some _) =>
    (first.isAlpha || first == '_') && rest.all fun c => c.isAlphanum || c == '_'
  | _ => false

/-- The job that a line shows, as text. -/
def Toolchain.jobText? (kind : Toolchain) (line : String) : Option String :=
  match kind with
  | driver .clang =>
    let job := Text.strip line
    if !Text.begins " " line || job.isEmpty || job == "(in-process)" then none else some job
  | driver .nvcc =>
    match Text.after? "#$ " line with
    | none => none
    | some rest =>
      let job := Text.strip rest
      if job.isEmpty || isAssignment job then none else some job
  | rustc => none

/-- What one line of a dry run holds. -/
inductive ListedLine where
  | job (job : Job)
  | unreadable (text : String) (error : CommandError)
  | noise
  deriving DecidableEq, Repr

namespace ListedLine

def ofLine (kind : Toolchain) (line : String) : ListedLine :=
  match kind.jobText? line with
  | none => noise
  | some text =>
    match tokenize text with
    | .error error => unreadable text error
    | .ok words =>
      match Job.ofWords? words with
      | some found => job found
      | none => noise

def job? : ListedLine → Option Job
  | job found => some found
  | _ => none

def record? : ListedLine → Option LogRecord
  | unreadable text error =>
    some ⟨.debug, .dryRun,
      "Skipping unparsable job line " ++ Text.quoted text ++ ": " ++ error.message⟩
  | _ => none

end ListedLine

/-- What a dry run printed, line by line. -/
def listing (kind : Toolchain) (output : String) : List ListedLine :=
  (Text.lines output).map (ListedLine.ofLine kind)

def jobsOf (kind : Toolchain) (output : String) : List Job :=
  (listing kind output).filterMap ListedLine.job?

/-- The log records about lines that could not be read, in order. -/
def recordsOf (kind : Toolchain) (output : String) : List LogRecord :=
  (listing kind output).filterMap ListedLine.record?

end CompilerCommands
