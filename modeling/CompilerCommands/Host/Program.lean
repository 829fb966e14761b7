import CompilerCommands.Execution.Time
import CompilerCommands.Text.Blank
import CompilerCommands.Text.Utf8

/-!
# Programs

What happens when a file is started: the system refuses, or a process runs for some time, prints,
and leaves a status.
-/

namespace CompilerCommands

structure StartError where
  code : Nat
  text : String
  deriving DecidableEq, Repr

namespace StartError

def message (e : StartError) : String := "[Errno " ++ toString e.code ++ "] " ++ e.text

def timedOutCode : Nat := 110

/-- The system says that a time limit of its own has passed. -/
def isTimeout (e : StartError) : Bool := e.code == timedOutCode

def notFound (shownName : String) : StartError := ⟨2, "No such file or directory: " ++ shownName⟩

end StartError

/-- How a process goes. -/
structure Behaviour where
  /-- All that it prints. -/
  output : List UInt8 := []
  status : Int := 0
  /-- How long it runs if it is left alone. Without a duration it runs forever. -/
  duration : Option Ticks := some 0
  /-- Goes on when it is killed. -/
  ignoresKill : Bool := false
  /-- Is gone just when it is to be killed. -/
  escapesKill : Bool := false
  deriving DecidableEq, Repr

/-- The text that a process printed, without white space at the end. -/
def Behaviour.text (b : Behaviour) : String :=
  Text.stripEnd (String.ofList (Text.Utf8.decode b.output))

inductive Launch where
  | refused (error : StartError)
  | started (behaviour : Behaviour)
  deriving DecidableEq, Repr

/-- A file, with what happens when it is started for the first time, for the second time, and so
on. The last one happens from then on. -/
structure File where
  executable : Bool := true
  directory : Bool := false
  launches : List Launch := []
  deriving DecidableEq, Repr

/-- What happens when the file is started after `earlier` starts. -/
def File.launch (file : File) (earlier : Nat) : Launch :=
  match file.launches[earlier]? with
  | some launch => launch
  | none => file.launches.getLast?.getD (.started {})

end CompilerCommands
