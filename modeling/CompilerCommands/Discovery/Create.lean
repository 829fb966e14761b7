import CompilerCommands.Discovery.Tree

/-!
# Commands from lines

A line is cut into words, its first word tells the toolchain, and the jobs of a driver are
discovered. A dry run that fails is kept with the command, or refused if creation is strict.
-/

namespace CompilerCommands

/-- A driver's command with what discovery changed. If a dry run failed, the error is kept with
the command; a strict creation fails instead. -/
def settle (strict : Bool) (driver : Driver) (call : Invocation) :
    Except Failure Discovered × World → Except Failure Command × World
  | (.ok found, world) => (.ok (.driver driver call found.state found.jobs), world)
  | (.error (.error (.dryRunFailed cause)), world) =>
    if strict then (.error (.undiscovered cause (.ofDriver driver call)), world)
    else
      (.ok (.driver driver call { error := some ⟨.dryRunFailed cause, some []⟩ } []),
        world.logUndiscovered call.rawLine (.dryRunFailed cause))
  | (.error failure, world) => (.error failure, world)

def createFromWords (discover : Discoverer) (strict : Bool) (line : String) (dir : Path)
    (world : World) : List String → Except Failure Command × World
  | [] => (.error (.error (.malformedLine .empty)), world)
  | executable :: args =>
    let call : Invocation :=
      { rawLine := line, executable := executable, args := args, workingDir := dir }
    match Toolchain.classify executable with
    | none => (.error (.error (.unsupportedToolchain executable)), world)
    | some .rustc => (.ok (.ofRustc call), world)
    | some (.driver driver) => settle strict driver call (discover [] driver call {} [] world)

/-- The command of a line, on a stack of calls that holds `depth` levels of drivers. -/
def createWithin (depth : Nat) (terms : Terms) (strict : Bool) (line : String) (dir : Path)
    (world : World) : Except Failure Command × World :=
  match tokenize line with
  | .error error => (.error (.error error), world)
  | .ok words => createFromWords (discoverWithin terms depth) strict line dir world words

end CompilerCommands
