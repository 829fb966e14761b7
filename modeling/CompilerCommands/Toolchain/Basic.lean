import CompilerCommands.Toolchain.Name

/-!
# Toolchains

A driver cuts one invocation into jobs that it can list without running them. `rustc` is the one
toolchain without jobs.
-/

namespace CompilerCommands

inductive Driver where
  | clang
  | nvcc
  deriving DecidableEq, Repr

inductive Toolchain where
  | driver (driver : Driver)
  | rustc
  deriving DecidableEq, Repr

namespace Toolchain

def isDriver : Toolchain → Bool
  | driver _ => true
  | rustc => false

/-- The toolchain of a tool's name. The compilers of GCC take the same command lines as clang. -/
def ofName (name : String) : Option Toolchain :=
  if upToLineFeed isClangName name.toList || upToLineFeed isGccName name.toList then
    some (driver .clang)
  else if name = "nvcc" then some (driver .nvcc)
  else if name = "rustc" then some rustc
  else none

def classify (executable : String) : Option Toolchain := ofName (baseName executable)

end Toolchain

end CompilerCommands
