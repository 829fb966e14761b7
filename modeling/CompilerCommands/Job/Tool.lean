import CompilerCommands.Job.Phase

/-!
# Tools that jobs run

A job's first argument tells clang's own frontends; any other tool is known by its name.
-/

namespace CompilerCommands

inductive Tool where
  | cc1
  | cc1as
  | assembler
  | linker
  | cudafe
  | cicc
  | ptxas
  | fatbinary
  | other
  deriving DecidableEq, Repr

namespace Tool

/-- The phase of every job of a tool, if it does not depend on the job's flags. -/
def phase? : Tool → Option Phase
  | cc1as | assembler | ptxas => some .assemble
  | linker => some .link
  | cicc => some .compile
  | cudafe | fatbinary => some .other
  | cc1 | other => none

def linkerNames : List String :=
  ["ld", "ld.lld", "ld.gold", "ld.bfd", "collect2", "link", "lld-link"]

/-- Names of tools; a linker's name may also be anything that ends with `-ld`. -/
def names : List (String × Tool) :=
  [("cc1", cc1), ("cc1plus", cc1), ("cc1obj", cc1), ("cc1objplus", cc1), ("as", assembler),
    ("gcc-as", assembler), ("nvlink", linker), ("cudafe++", cudafe), ("cudafe", cudafe),
    ("cicc", cicc), ("ptxas", ptxas), ("fatbinary", fatbinary)] ++
    linkerNames.map fun name => (name, linker)

def ofName (name : String) : Tool :=
  match names.lookup name with
  | some tool => tool
  | none => if Text.ends "-ld" name then linker else other

/-- The frontend that a job's first argument asks for. -/
def ofFirstArgument? : List String → Option Tool
  | "-cc1" :: _ => some cc1
  | "-cc1as" :: _ => some cc1as
  | _ => none

/-- The tool that a planned job runs. -/
def classify (executable : String) (args : List String) : Tool :=
  match ofFirstArgument? args with
  | some tool => tool
  | none => ofName (Toolchain.baseName executable)

end Tool

end CompilerCommands
