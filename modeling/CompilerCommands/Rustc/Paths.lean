import CompilerCommands.Arguments.FlagValue
import CompilerCommands.Arguments.Positional
import CompilerCommands.Rustc.Arguments

/-!
# What a rustc command reads and writes
-/

namespace CompilerCommands.Rustc

/-- Flags whose value is not an input. -/
def valueFlags : List String :=
  ["-o", "--out-dir", "--crate-name", "--crate-type", "--edition", "--target", "--sysroot",
    "--extern", "--cfg", "--check-cfg", "--cap-lints", "--print", "--explain", "--error-format",
    "--json", "--color", "--remap-path-prefix", "--emit", "--codegen", "-C", "-Z", "-L", "-l", "-A",
    "-W", "-D", "-F"]

def inputs (args : List String) : List String :=
  (Arguments.positional valueFlags args).filter (Text.ends ".rs")

/-- The name of the crate: the one that is given, or that of the first source. -/
def crateName? (args : List String) : Option String :=
  match Arguments.flagValue? args ["--crate-name"] true with
  | some name => some name
  | none => (inputs args).head?.map pathStem

/-- `name` in the directory that the arguments give, if they give one. -/
def inOutDir (args : List String) (name : String) : String :=
  match Arguments.flagValue? args ["--out-dir"] true with
  | none => name
  | some dir =>
    if dir.isEmpty then name else ((Path.ofString dir).join (Path.ofString name)).toString

/-- The output that the arguments name, or the crate's. -/
def outputPath (args : List String) : Option String :=
  match Arguments.flagValue? args ["-o"] true with
  | some path => some path
  | none => (crateName? args).map (inOutDir args)

/-- Where an artifact is written: at the path that was given for it, or beside the output. What is
not emitted has no path, nor has it one beside the standard output. -/
def Flags.artifactPath (flags : Flags) (output : Option String) (artifact : Artifact) :
    Option String :=
  if flags.emits artifact then
    match flags.emitPath artifact with
    | some path => some path
    | none =>
      match output with
      | none => none
      | some path =>
        if path = stdoutMarker then none else some (dropExtension path ++ artifact.suffix)
  else none

end CompilerCommands.Rustc
