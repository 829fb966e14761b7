import CompilerCommands.Toolchain.Basic

/-!
# File name suffixes

Suffixes are compared in lower case. `.C` and `.S` mean other files than `.c` and `.s` and are
compared as they are.
-/

namespace CompilerCommands

/-- Is compared as it is. -/
def isCasedSuffix (suffix : String) : Bool := suffix == ".C" || suffix == ".S"

def hasSuffix (path : String) (suffixes : List String) : Bool :=
  let lowered := Text.lower path
  suffixes.any fun suffix => Text.ends suffix (if isCasedSuffix suffix then path else lowered)

def clangSourceSuffixes : List String :=
  [".c", ".cc", ".cp", ".cpp", ".cxx", ".c++", ".cu", ".C", ".m", ".mm", ".i", ".ii", ".s", ".S"]

def nvccSourceSuffixes : List String := [".cu", ".c", ".cc", ".cpp", ".cxx", ".ptx", ".gpu"]

/-- Suffixes of what goes into a planned job and comes out of it. -/
def intermediateSuffixes : List String :=
  [".ii", ".i", ".bc", ".ll", ".s", ".S", ".o", ".obj", ".ptx", ".cubin", ".fatbin", ".c", ".cc",
    ".cpp", ".cxx", ".cu", ".rs"]

def Driver.sourceSuffixes : Driver → List String
  | clang => clangSourceSuffixes
  | nvcc => nvccSourceSuffixes

def Toolchain.sourceSuffixes : Toolchain → List String
  | driver d => d.sourceSuffixes
  | rustc => [".rs"]

end CompilerCommands
