import CompilerCommands.Command.Error
import CompilerCommands.Job.Paths
import CompilerCommands.Rustc.Paths
import CompilerCommands.Toolchain.DriverPaths

/-!
# Commands

A command is one invocation of a tool. A driver's command has the jobs it plans as commands below
it, once they have been discovered. Commands of a tree are named by their position: the way from
the root, as the numbers of the jobs on it.
-/

namespace CompilerCommands

/-- The way from the root of a tree to one of its commands. -/
abbrev Position := List Nat

/-- A line, as it was read. -/
structure Invocation where
  rawLine : String
  executable : String
  args : List String
  workingDir : Path
  /-- The driver whose dry run planned this. -/
  parent : Option Position := none
  platform : Platform := .linux
  deriving DecidableEq, Repr

def Invocation.words (call : Invocation) : List String := call.executable :: call.args

/-- An error that a command keeps, and the command whose jobs were being discovered. -/
structure RecordedError where
  error : CommandError
  command : Option Position := none
  deriving DecidableEq, Repr

/-- What became of discovering a driver's jobs, apart from the jobs. -/
structure DiscoveryState where
  cancelled : Bool := false
  error : Option RecordedError := none
  deriving DecidableEq, Repr

inductive Command where
  /-- A planned job that is neither a driver nor rustc. -/
  | job (tool : Tool) (call : Invocation)
  | rustc (call : Invocation) (flags : Rustc.Flags)
  | driver (kind : Driver) (call : Invocation) (state : DiscoveryState) (jobs : List Command)

namespace Command

/-! ## Making commands -/

def ofRustc (call : Invocation) : Command := .rustc call (Rustc.Flags.ofArgs call.args)

/-- A driver whose jobs are still to be discovered. -/
def ofDriver (kind : Driver) (call : Invocation) : Command := .driver kind call {} []

/-! ## One command -/

def call : Command → Invocation
  | job _ call => call
  | rustc call _ => call
  | driver _ call _ _ => call

def jobs : Command → List Command
  | driver _ _ _ jobs => jobs
  | _ => []

def discovery? : Command → Option DiscoveryState
  | driver _ _ state _ => some state
  | _ => none

def typeName : Command → String
  | job .cc1 _ => "CC1Command"
  | job .cc1as _ => "CC1ASCommand"
  | job .assembler _ => "AssemblerCommand"
  | job .linker _ => "LinkerCommand"
  | job .cudafe _ => "CudafeCommand"
  | job .cicc _ => "CICCCommand"
  | job .ptxas _ => "PTXASCommand"
  | job .fatbinary _ => "FatbinaryCommand"
  | job .other _ => "JobCommand"
  | rustc _ _ => "RustcCommand"
  | driver .clang _ _ _ => "ClangCommand"
  | driver .nvcc _ _ _ => "NVCCCommand"

/-- The arguments the command has now. Those of rustc follow from its flags. -/
def args : Command → List String
  | job _ call => call.args
  | rustc _ flags => flags.synthesize
  | driver _ call _ _ => call.args

def inputPath : Command → Option String
  | job tool call => tool.inputPath call.args
  | rustc call _ => (Rustc.inputs call.args).head?
  | driver kind call _ _ => kind.inputPath call.args

def outputPath : Command → Option String
  | job tool call => tool.outputPath call.args
  | rustc call _ => Rustc.outputPath call.args
  | driver kind call _ _ => some (kind.outputPath call.platform call.args)

def printsOutput (command : Command) : Bool := command.outputPath == some stdoutMarker

def phase? : Command → Option Phase
  | job tool call => some (tool.phase call.args)
  | _ => none

/-- The path of an artifact that rustc is asked to emit. -/
def artifactPath (artifact : Rustc.Artifact) : Command → Option String
  | rustc call flags => flags.artifactPath (Rustc.outputPath call.args) artifact
  | _ => none

def text (command : Command) : String := Shell.quote (command.call.executable :: command.args)

/-- The command as a message shows it. -/
def shown (command : Command) : String :=
  command.typeName ++ "(" ++ Text.quoted command.text ++ ")"

def mapFlags (change : Rustc.Flags → Rustc.Flags) : Command → Command
  | rustc call flags => .rustc call (change flags)
  | command => command

end Command

end CompilerCommands
