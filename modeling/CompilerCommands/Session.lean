import CompilerCommands.Command.Tree
import CompilerCommands.Discovery.Create
import CompilerCommands.Rustc.Change

/-!
# Sessions

A session is a row of steps on one host. Commands are kept under names, and calls may be given
tokens by which they can be cancelled; a token that has been cancelled stays so.
-/

namespace CompilerCommands

structure Session where
  host : Host
  /-- Tokens that have been cancelled. -/
  cancelled : List String := []
  commands : List (String × Command) := []

/-- What most steps can be given. -/
structure StepOptions where
  token : Option String := none
  limit : Option TimeLimit := none
  extraEnv : Environment := {}
  /-- The directory of the call, the host's current one if there is none. -/
  dir : Option Path := none
  cancelAt : Option Ticks := none
  abortAt : Option Ticks := none

inductive Step where
  | create (options : StepOptions) (name line : String) (strict : Bool)
  | discover (options : StepOptions) (name : String)
  | describe (name : String)
  | change (name : String) (changes : List Rustc.Change)
  | discoverJobs (options : StepOptions) (kind : Toolchain) (executable : String)
      (args : List String)
  | run (options : StepOptions) (words : List String)
  | find (executable : String) (dir : Option Path) (extraEnv : Environment)
  | print (options : StepOptions) (line : String) (filter : Option String)
  | cancel (token : String)
  | isCancelled (token : String)
  | setFile (place : Path) (file : Option File)
  | setVariable (name : String) (value : Option String)
  | changeDir (dir : Path)

inductive Answer where
  | command (command : Command)
  | jobs (jobs : Option (List Job))
  | ran (result : Option (String × Int))
  | found (program : Option Path)
  | printed (text : String)
  | cancelled (yes : Bool)
  | done

structure StepResult where
  answer : Except Failure Answer
  elapsed : Ticks := 0
  records : List LogRecord := []
  attempts : List Attempt := []

def StepOptions.terms (options : StepOptions) : Terms where
  limit := options.limit
  extraEnv := options.extraEnv
  cancellable := options.token.isSome
  cancelAt := options.cancelAt
  abortAt := options.abortAt

namespace Session

def command? (session : Session) (name : String) : Option Command := session.commands.lookup name

def keep (session : Session) (name : String) (command : Command) : Session :=
  { session with
    commands := (name, command) :: session.commands.filter (·.1 != name) }

def cancelToken (session : Session) (token : String) : Session :=
  if session.cancelled.contains token then session
  else { session with cancelled := token :: session.cancelled }

/-- The world at the beginning of a step with a token. -/
def world (session : Session) (token : Option String) : World where
  host := session.host
  cancelled := token.any session.cancelled.contains

def after (session : Session) (token : Option String) (world : World) : Session :=
  let session := { session with host := world.host }
  match token with
  | some token => if world.cancelled then session.cancelToken token else session
  | none => session

def dirOf (session : Session) (dir : Option Path) : Path := dir.getD session.host.cwd

/-- A step that ends with an answer and does nothing else. -/
def answering (session : Session) (answer : Except Failure Answer) : StepResult × Session :=
  (⟨answer, 0, [], []⟩, session)

/-- Makes a call on the terms of `options`; `finish` makes an answer of its result and may change
the session. -/
def calling {α : Type} (session : Session) (options : StepOptions)
    (call : Terms → World → Except Failure α × World)
    (finish : Session → α → Answer × Session) : StepResult × Session :=
  let (result, world) := call options.terms (session.world options.token)
  let session := session.after options.token world
  match result with
  | .ok value =>
    let (answer, session) := finish session value
    (⟨.ok answer, world.now, world.records, world.attempts⟩, session)
  | .error failure =>
    (⟨.error failure, world.now, world.records, world.attempts⟩, session)

def keeping (name : String) (session : Session) (command : Command) : Answer × Session :=
  (.command command, session.keep name command)

def step (session : Session) : Step → StepResult × Session
  | .create options name line strict =>
    session.calling options
      (fun terms => createWithin maxDepth terms strict line (session.dirOf options.dir))
      (keeping name)
  | .discover options name =>
    match session.command? name with
    | none => session.answering (.error (.unknownName name))
    | some command =>
      session.calling options
        (fun terms world =>
          (command.rediscoverWithin maxDepth terms world).getD (.error (.unsuited name), world))
        (keeping name)
  | .describe name =>
    match session.command? name with
    | none => session.answering (.error (.unknownName name))
    | some command => session.answering (.ok (.command command))
  | .change name changes =>
    match session.command? name with
    | none => session.answering (.error (.unknownName name))
    | some command =>
      let changed := command.mapFlags (Rustc.Change.applyAll · changes)
      (session.keep name changed).answering (.ok (.command changed))
  | .discoverJobs options kind executable args =>
    session.calling options
      (fun terms => CompilerCommands.discoverJobs terms kind executable args
        (session.dirOf options.dir))
      (fun session jobs => (.jobs jobs, session))
  | .run options words =>
    session.calling options
      (fun terms world =>
        let (result, after) :=
          CompilerCommands.run terms words (session.dirOf options.dir) world
        (result.toExcept (words.headD ""), after))
      (fun session result => (.ran result, session))
  | .find executable dir extraEnv =>
    session.answering
      (.ok (.found (session.host.findExecutable? executable (session.dirOf dir) extraEnv)))
  | .print options line filter =>
    session.calling options
      (fun terms => createWithin maxDepth terms false line (session.dirOf none))
      (fun session command =>
        (.printed (command.mapFlags fun flags => { flags with filter := filter }).printed,
          session))
  | .cancel token => (session.cancelToken token).answering (.ok .done)
  | .isCancelled token =>
    session.answering (.ok (.cancelled (session.cancelled.contains token)))
  | .setFile place file =>
    let host := match file with
      | some file => session.host.putFile place file
      | none => session.host.removeFile place
    { session with host := host }.answering (.ok .done)
  | .setVariable name value =>
    let env := match value with
      | some value => session.host.env.set name value
      | none => session.host.env.erase name
    { session with host := { session.host with env := env } }.answering (.ok .done)
  | .changeDir dir =>
    { session with host := { session.host with cwd := dir } }.answering (.ok .done)

/-- Does steps one after another. A step that fails does not keep the next from being done. -/
def steps (session : Session) : List Step → List StepResult
  | [] => []
  | first :: rest =>
    let (result, next) := session.step first
    result :: next.steps rest

end Session

end CompilerCommands
