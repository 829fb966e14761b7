import CompilerCommands.Arguments.FlagValue
import CompilerCommands.Arguments.Positional
import CompilerCommands.Job.Tool

/-!
# What a planned job reads and writes

Jobs of all tools share one set of flags. A linker reads many files; of these its input is an
object of the build rather than one of the system's.
-/

namespace CompilerCommands

/-- Flags of jobs whose value is never the input. -/
def jobValueFlags : List String :=
  ["-o", "-main-file-name", "-triple", "-target-cpu", "-tune-cpu", "-resource-dir",
    "-internal-isystem", "-internal-externc-isystem", "-isystem", "-include", "-I", "-D",
    "-dependency-file", "-MT", "-MF", "-MQ", "-filetype", "-dumpbase", "-dumpbase-ext", "-dumpdir",
    "-auxbase", "-auxbase-strip", "-x", "--module_id_file_name", "--gen_c_file_name",
    "--stub_file_name", "--gen_device_file_name", "--orig_src_file_name", "--orig_src_path_name",
    "-orig_src_file_name", "-orig_src_path_name"]

def jobOutputFlags : List String := ["-o", "--output-file", "--create", "--gen_c_file_name"]

namespace Tool

def namedOutput? (args : List String) : Option String :=
  Arguments.flagValue? args jobOutputFlags false

/-- The phase of a job: its tool's, or the one its flags ask for, or the one its output shows. -/
def phase (tool : Tool) (args : List String) : Phase :=
  match tool.phase? with
  | some phase => phase
  | none =>
    match Phase.ofFlags args with
    | some phase => phase
    | none => ((namedOutput? args).bind Phase.ofOutput).getD .other

/-- The output of a job. A preprocessor prints if no output is named. -/
def outputPath (tool : Tool) (args : List String) : Option String :=
  match namedOutput? args with
  | some path => some path
  | none => if tool.phase args = .preprocess then some stdoutMarker else none

/-- The argument after the last `-x` with its language. -/
def afterLanguage? : List String → Option String
  | flag :: language :: input :: rest =>
    match afterLanguage? (language :: input :: rest) with
    | some found => some found
    | none => if flag = "-x" then some input else none
  | _ => none

/-- The positional arguments that name what goes into a job or comes out of one. -/
def candidates (args : List String) : List String :=
  (Arguments.positional jobValueFlags args).filter (hasSuffix · intermediateSuffixes)

/-- Lies below a root, in the spelling of either system. -/
def isRooted (path : String) : Bool := Text.begins "/" (slashed path)

/-- The input of a linker: the first object that is not rooted, or the first one. -/
def linkerInput (args : List String) : Option String :=
  let objects := candidates args
  match objects.find? (!isRooted ·) with
  | some object => some object
  | none => objects.head?

/-- The input of a job. What stands after the language is the input unless it is a flag. -/
def inputPath (tool : Tool) (args : List String) : Option String :=
  if tool = .linker then linkerInput args
  else
    match afterLanguage? args with
    | some input => if Text.begins "-" input then (candidates args).head? else some input
    | none => (candidates args).head?

end Tool

end CompilerCommands
