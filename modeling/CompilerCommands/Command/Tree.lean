import CompilerCommands.Command.Basic

/-!
# Trees of commands

Three views of a tree: its commands in a row, parents first; a report of the same shape with what a
reader wants to know of each command; and the report's text, indented by depth.
-/

namespace CompilerCommands

namespace Command

/-! ## In a row -/

mutual

/-- The commands of a tree with their positions below `here`, parents first. -/
def walkFrom (here : Position) : Command → List (Position × Command)
  | .driver kind call state jobs =>
    (here, .driver kind call state jobs) :: walkJobs here 0 jobs
  | command => [(here, command)]

/-- The commands of the trees that are the jobs of `here` from the number `n` on. -/
def walkJobs (here : Position) (n : Nat) : List Command → List (Position × Command)
  | [] => []
  | first :: rest => walkFrom (here ++ [n]) first ++ walkJobs here (n + 1) rest

end

def walk (root : Command) : List (Position × Command) := root.walkFrom []

def indexOf? (root : Command) (position : Position) : Option Nat :=
  root.walk.findIdx? (·.1 == position)

theorem walkFrom_eq (here : Position) (command : Command) :
    command.walkFrom here = (here, command) :: walkJobs here 0 command.jobs := by
  cases command <;> simp [walkFrom, jobs, walkJobs]

end Command

/-! ## Reports -/

/-- What a report says of some kinds of commands only. -/
inductive ReportDetail where
  | job (phase : Phase)
  | driver (discoveryError : Option String)
  | rustc (inputs : List String) (llvmIr asm : Option String)
  deriving DecidableEq, Repr

inductive Report where
  | node (typeName executable : String) (args : List String) (input output : Option String)
      (detail : ReportDetail) (jobs : List Report)

namespace Command

def reportDetail : Command → ReportDetail
  | job tool call => .job (tool.phase call.args)
  | driver _ _ state _ => .driver (state.error.map (·.error.message))
  | rustc call flags =>
    let output := Rustc.outputPath call.args
    .rustc (Rustc.inputs call.args) (flags.artifactPath output .llvmIr)
      (flags.artifactPath output .asm)

/-- A command's report, its jobs' reports being given. -/
def reportWith (command : Command) (jobs : List Report) : Report :=
  .node command.typeName command.call.executable command.args command.inputPath command.outputPath
    command.reportDetail jobs

mutual

def report : Command → Report
  | .driver kind call state jobs =>
    reportWith (.driver kind call state jobs) (reportJobs jobs)
  | command => reportWith command []

def reportJobs : List Command → List Report
  | [] => []
  | first :: rest => first.report :: reportJobs rest

end

end Command

/-! ## Text -/

namespace Command

def shownPath (path : Option String) : String := path.getD "None"

def indent (depth : Nat) : String := String.ofList (List.replicate (2 * depth) ' ')

def summary (command : Command) : String :=
  let phase := match command.phase? with
    | some phase => " [" ++ phase.name ++ "]"
    | none => ""
  command.typeName ++ phase ++ ": " ++ shownPath command.inputPath ++ " -> " ++
    shownPath command.outputPath

def printedLines (depth : Nat) (command : Command) : List String :=
  [indent depth ++ command.summary, indent depth ++ "  $ " ++ command.text]

mutual

def printedTree (depth : Nat) : Command → List String
  | .driver kind call state jobs =>
    printedLines depth (.driver kind call state jobs) ++ printedJobs (depth + 1) jobs
  | command => printedLines depth command

def printedJobs (depth : Nat) : List Command → List String
  | [] => []
  | first :: rest => first.printedTree depth ++ printedJobs depth rest

end

/-- The lines for a rustc command's artifacts; other commands have none. -/
def printedArtifacts (command : Command) : List String :=
  match command with
  | .rustc _ _ =>
    ["LLVM IR: " ++ shownPath (command.artifactPath .llvmIr),
      "assembly: " ++ shownPath (command.artifactPath .asm)]
  | _ => []

def printed (command : Command) : String :=
  String.join ((command.printedArtifacts ++ command.printedTree 0).map (· ++ "\n"))

end Command

end CompilerCommands
