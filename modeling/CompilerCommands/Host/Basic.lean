import CompilerCommands.Host.Environment
import CompilerCommands.Host.Program
import CompilerCommands.Path.Posix
import CompilerCommands.Text.Quoted

/-!
# The host

The machine that commands run on: the current directory, the environment and the files. A name is
looked up twice, in different places: before a driver is run, from the current directory, and when
a process is started, from the directory of that process.

A host knows less than a machine does. Names are resolved by their text alone: every directory
exists, no path is a link, and a slash behind a name says nothing.
-/

namespace CompilerCommands

structure Host where
  /-- The current directory, as it was named: a `..` in it stays. -/
  cwd : Path
  env : Environment := {}
  /-- Files by normal absolute path. -/
  files : List (Path × File) := []
  /-- How often the file at a path has been started. -/
  starts : List (Path × Nat) := []
  deriving Repr

namespace Host

/-! ## Files -/

def file? (host : Host) (place : Path) : Option File := host.files.lookup place

/-- A file that can be started is at `place`. -/
def isExecutable (host : Host) (place : Path) : Bool :=
  match host.file? place with
  | some file => file.executable && !file.directory
  | none => false

def startCount (host : Host) (place : Path) : Nat := (host.starts.lookup place).getD 0

def countStart (host : Host) (place : Path) : Host :=
  { host with
    starts := (place, host.startCount place + 1) :: host.starts.filter (·.1 != place) }

/-- Puts a file at `place`. It has not been started. -/
def putFile (host : Host) (place : Path) (file : File) : Host :=
  { host with
    files := (place, file) :: host.files.filter (·.1 != place)
    starts := host.starts.filter (·.1 != place) }

/-- Takes the file at `place` away. Its starts are remembered. -/
def removeFile (host : Host) (place : Path) : Host :=
  { host with files := host.files.filter (·.1 != place) }

/-! ## Looking up names -/

/-- Where programs are if no search path says so. -/
def defaultSearchPath : String := "/bin:/usr/bin"

def searchDirs (searchPath : String) : List String :=
  (searchPath.toList.splitOn ':').map String.ofList

/-- Names a file by its place and not only by its name. -/
def hasSlash (name : String) : Bool := name.toList.contains '/'

/-- The texts under which `name` is tried, in order. -/
def spellings (name searchPath : String) : List String :=
  if hasSlash name then [name] else (searchDirs searchPath).map fun dir => joinText dir name

/-- The first spelling of `name` under which the current directory has a program. An empty search
path has no directories. -/
def search? (host : Host) (name : String) (searchPath : String) : Option String :=
  if searchPath.isEmpty && !hasSlash name then none
  else (spellings name searchPath).find? fun spelling =>
    host.isExecutable (host.cwd.locate spelling)

/-- The name to look up for `executable`, which `dir` is put before if it is a relative path of two
components or more. -/
def nameFrom (dir : Path) (executable : String) : String :=
  let path := Path.ofString executable
  if !path.isAbsolute && decide (1 < path.parts.length) then (dir.join path).toString
  else executable

/-- The program that `executable` stands for in the directory `dir`. -/
def findExecutable? (host : Host) (executable : String) (dir : Path) (changes : Environment) :
    Option Path :=
  let searchPath := ((host.env.override changes).get? "PATH").getD defaultSearchPath
  match host.search? (nameFrom dir executable) searchPath with
  | none => none
  | some found => if found.isEmpty then none else some (Path.ofString found)

/-- The place of the program that is started for `name` in the directory `dir`. -/
def resolve? (host : Host) (name : String) (dir : Path) (env : Environment) : Option Path :=
  let searchPath := (env.get? "PATH").getD defaultSearchPath
  ((spellings name searchPath).map (host.cwd.join dir).locate).find? host.isExecutable

end Host

end CompilerCommands
