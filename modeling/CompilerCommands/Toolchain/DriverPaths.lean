import CompilerCommands.Arguments.FlagValue
import CompilerCommands.Arguments.Positional

/-!
# What a driver reads and writes
-/

namespace CompilerCommands.Driver

/-- Flags whose value is not an input. -/
def valueFlags : Driver → List String
  | clang =>
    ["-o", "--output", "-I", "-D", "-U", "-include", "-imacros", "-isystem", "-idirafter",
      "-iquote", "-isysroot", "-iprefix", "--sysroot", "-MF", "-MT", "-MQ", "-x", "-Xclang",
      "-Xlinker", "-Xassembler", "-Xpreprocessor", "-target", "-arch", "-L", "-T", "-u", "-z"]
  | nvcc =>
    ["-o", "--output-file", "-I", "--include-path", "-D", "--define-macro", "-U",
      "--undefine-macro", "-include", "--pre-include", "-isystem", "--system-include", "-x", "--x",
      "-ccbin", "--compiler-bindir", "-Xcompiler", "--compiler-options", "-Xlinker",
      "--linker-options", "-Xptxas", "--ptxas-options", "-gencode", "--generate-code", "-arch",
      "--gpu-architecture", "-code", "--gpu-code", "-odir", "--output-directory", "-MF", "-MT",
      "-L", "-l"]

def outputFlags : Driver → List String
  | clang => ["-o", "--output"]
  | nvcc => ["-o", "--output-file"]

/-- `-opath` names the output. For nvcc `-odir` names a directory, so it does not. -/
def joinsOutput : Driver → Bool
  | clang => true
  | nvcc => false

def inputPath (driver : Driver) (args : List String) : Option String :=
  (Arguments.positional driver.valueFlags args).find? (hasSuffix · driver.sourceSuffixes)

/-- The output that the flags name, or the one that goes without saying. -/
def outputPath (driver : Driver) (platform : Platform) (args : List String) : String :=
  match Arguments.flagValue? args driver.outputFlags driver.joinsOutput with
  | some path => path
  | none => (Toolchain.driver driver).defaultOutput platform args (driver.inputPath args)

end CompilerCommands.Driver
