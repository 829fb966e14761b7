import CompilerCommands.Toolchain.Basic

/-!
# Switches for a dry run

A driver lists its jobs without running them if it is asked to. It is also asked to keep its
intermediate files, which makes it list every step as a job of its own.
-/

namespace CompilerCommands

/-- What has to be added to `args`. -/
def Driver.dryRunSwitches (driver : Driver) (args : List String) : List String :=
  match driver with
  | .clang => if args.any (Text.begins "-save-temps") then ["-###"] else ["-save-temps", "-###"]
  | .nvcc =>
    if args.contains "--keep" || args.contains "-keep" then ["--dryrun"]
    else ["--keep", "--dryrun"]

def Driver.dryRunArgs (driver : Driver) (args : List String) : List String :=
  args ++ driver.dryRunSwitches args

def Toolchain.dryRunArgs? (kind : Toolchain) (args : List String) : Option (List String) :=
  match kind with
  | driver d => some (d.dryRunArgs args)
  | rustc => none

end CompilerCommands
