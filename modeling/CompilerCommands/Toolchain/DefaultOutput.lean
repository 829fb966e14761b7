import CompilerCommands.Toolchain.Suffix

/-!
# Outputs without an output flag

A compiler names its output after its source and what it was asked to make, in the way of the
platform it runs on.
-/

namespace CompilerCommands

inductive Platform where
  | linux
  | windows
  deriving DecidableEq, Repr

namespace Platform

def executableName : Platform → String
  | linux => "a.out"
  | windows => "a.exe"

def objectSuffix : Platform → String
  | linux => ".o"
  | windows => ".obj"

end Platform

/-- Stands for the standard output. -/
def stdoutMarker : String := "-"

/-- Flags that ask a toolchain for one kind of output, with the suffix of that output. -/
def Toolchain.outputKinds : Toolchain → List (String × String)
  | driver .clang => [("-S", ".s")]
  | driver .nvcc => [("-ptx", ".ptx"), ("-cubin", ".cubin"), ("-fatbin", ".fatbin")]
  | rustc => []

/-- The suffix of the output that `args` ask for, if they stop before linking. -/
def Toolchain.outputSuffix? (kind : Toolchain) (platform : Platform) (args : List String) :
    Option String :=
  match kind.outputKinds.find? fun (flag, _) => args.contains flag with
  | some (_, suffix) => some suffix
  | none =>
    if args.contains "-c" || args.contains "--compile" then some platform.objectSuffix else none

/-- The output when no output flag is given. A preprocessor prints. -/
def Toolchain.defaultOutput (kind : Toolchain) (platform : Platform) (args : List String)
    (input : Option String) : String :=
  if args.contains "-E" then stdoutMarker
  else
    let stem := (input.map pathStem).getD ""
    match kind.outputSuffix? platform args with
    | some suffix => if stem.isEmpty then platform.executableName else stem ++ suffix
    | none => platform.executableName

end CompilerCommands
