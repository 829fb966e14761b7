import CompilerCommands.Discovery.DryRun

/-!
# Discovering the jobs of a driver

The jobs that a dry run lists become commands below the driver. A job that is a driver itself has
its own jobs discovered first; if that fails, the failure is kept with it and the next job's turn
comes.

Drivers may plan drivers without end, and no rule stops them. Each level of drivers stands on the
stack of calls, so it is the stack that gives out. Its depth is not the discovery's to choose: it is
a parameter here, and `tooDeep` is the failure of a discovery that has used it up.
-/

namespace CompilerCommands

/-- What discovery changes of a driver. -/
structure Discovered where
  state : DiscoveryState
  jobs : List Command

/-- The invocation of the job number `n` of the driver at `here`. -/
def Invocation.ofJob (parent : Invocation) (here : Position) (job : Job) : Invocation where
  rawLine := Shell.quote job.words
  executable := job.executable
  args := job.args
  workingDir := parent.workingDir
  parent := some here
  platform := parent.platform

def World.logUndiscovered (world : World) (line : String) (error : CommandError) : World :=
  world.log .warning .command
    ("Could not discover the jobs of " ++ line ++ ": " ++ error.message)

/-- How an error is kept with the driver at `position` inside a tree. Other errors are none of the
driver's and are not kept. -/
def recordNested? (position : Position) : Failure → Option RecordedError
  | .error (.dryRunFailed cause) => some ⟨.dryRunFailed cause, some position⟩
  | .error (.toolchainNotFound executable reason) =>
    some ⟨.toolchainNotFound executable reason, none⟩
  | _ => none

abbrev Discoverer := Position → Driver → Invocation → DiscoveryState → List Command → World →
  Except Failure Discovered × World

/-- A nested driver's command: with its jobs, or with the error that kept them from being
discovered. -/
def nestedDriver (discover : Discoverer) (position : Position) (driver : Driver)
    (call : Invocation) (world : World) : Except Failure Command × World :=
  match discover position driver call {} [] world with
  | (.ok found, after) => (.ok (.driver driver call found.state found.jobs), after)
  | (.error failure, after) =>
    match recordNested? position failure with
    | some recorded =>
      (.ok (.driver driver call { error := some recorded } []),
        after.logUndiscovered call.rawLine recorded.error)
    | none => (.error failure, after)

/-- The command of the job number `n` of the driver at `here`. -/
def jobCommand (discover : Discoverer) (here : Position) (parent : Invocation) (n : Nat)
    (job : Job) (world : World) : Except Failure Command × World :=
  let call := parent.ofJob here job
  match job.role with
  | .driver driver => nestedDriver discover (here ++ [n]) driver call world
  | .rustc => (.ok (.ofRustc call), world)
  | .tool tool => (.ok (.job tool call), world)

def jobCommands (discover : Discoverer) (here : Position) (parent : Invocation) (n : Nat) :
    List Job → World → Except Failure (List Command) × World
  | [], world => (.ok [], world)
  | job :: rest, world =>
    match jobCommand discover here parent n job world with
    | (.error failure, after) => (.error failure, after)
    | (.ok first, after) =>
      match jobCommands discover here parent (n + 1) rest after with
      | (.error failure, last) => (.error failure, last)
      | (.ok others, last) => (.ok (first :: others), last)

/-- Discovers the jobs of the driver at `here`, which has been left with `state` and `jobs`.
`discover` is for the drivers among the jobs. -/
def discoverWith (discover : Discoverer) (terms : Terms) : Discoverer :=
  fun here driver call state jobs world =>
    match world.host.findExecutable? call.executable call.workingDir terms.extraEnv with
    | none => (.error (.error (.toolchainNotFound call.executable none)), world)
    | some program =>
      match discoverJobs terms (.driver driver) program.toString call.args call.workingDir
          world with
      | (.error failure, after) => (.error failure, after)
      | (.ok none, after) => (.ok ⟨{ state with cancelled := true }, jobs⟩, after)
      | (.ok (some planned), after) =>
        match jobCommands discover here call 0 planned after with
        | (.error failure, last) => (.error failure, last)
        | (.ok commands, last) => (.ok ⟨state, commands⟩, last)

/-- Discovers jobs on a stack that holds `depth` levels of drivers. -/
def discoverWithin (terms : Terms) : Nat → Discoverer
  | 0 => fun _ _ _ _ _ world => (.error .tooDeep, world)
  | depth + 1 => discoverWith (discoverWithin terms depth) terms

/-- How many levels of drivers the stack of a session holds. No stack in particular is meant. -/
def maxDepth : Nat := 1000

/-- Discovers the jobs of a command again, if it is a driver. A failure changes nothing. -/
def Command.rediscoverWithin (depth : Nat) (terms : Terms) (world : World) :
    Command → Option (Except Failure Command × World)
  | .driver kind call state jobs =>
    match discoverWithin terms depth [] kind call state jobs world with
    | (.ok found, after) => some (.ok (.driver kind call found.state found.jobs), after)
    | (.error failure, after) => some (.error failure, after)
  | _ => none

end CompilerCommands
