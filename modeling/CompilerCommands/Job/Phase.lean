import CompilerCommands.Toolchain.Suffix

/-!
# Phases of compilation

What a job does to its input, told by its flags or by the suffix of its output.
-/

namespace CompilerCommands

inductive Phase where
  | preprocess
  | compile
  | assemble
  | link
  | other
  deriving DecidableEq, Repr

namespace Phase

def name : Phase → String
  | preprocess => "PREPROCESS"
  | compile => "COMPILE"
  | assemble => "ASSEMBLE"
  | link => "LINK"
  | other => "OTHER"

/-- The phase that a job's flags ask for. The earliest phase wins. -/
def ofFlags (args : List String) : Option Phase :=
  if args.contains "-E" then some preprocess
  else if ["-S", "-emit-llvm-bc", "-emit-llvm", "-fpreprocessed"].any args.contains then
    some compile
  else if ["-emit-obj", "-c"].any args.contains then some assemble
  else none

/-- The phase that makes files with the suffix of `output`. -/
def ofOutput (output : String) : Option Phase :=
  if hasSuffix output [".ii", ".i"] then some preprocess
  else if hasSuffix output [".s", ".ll", ".bc", ".ptx"] then some compile
  else if hasSuffix output [".o", ".obj", ".cubin"] then some assemble
  else none

end Phase

end CompilerCommands
