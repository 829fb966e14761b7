import CompilerCommands.DryRun.Switches
import CompilerCommands.Proofs.Arguments.Roles
import CompilerCommands.Toolchain.DriverPaths

/-!
# Where the switches of a dry run stand

The switches of a dry run are put behind the arguments of the driver. If these end in a flag that
waits for its value, the first switch becomes the value. That is the switch to keep intermediate
files, unless the arguments ask for them anyway: then it is the one that makes the driver list its
jobs, and the driver runs them.
-/

namespace CompilerCommands.Driver

open Arguments (ArgRole rolesFrom pendingAfter isFlag)

/-- The arguments ask for the intermediate files themselves. -/
def keepsFiles (driver : Driver) (args : List String) : Bool :=
  match driver with
  | clang => args.any (Text.begins "-save-temps")
  | nvcc => args.contains "--keep" || args.contains "-keep"

/-- What the driver reads the switches of a dry run as. -/
def switchRoles (driver : Driver) (args : List String) : List ArgRole :=
  (rolesFrom driver.valueFlags false (driver.dryRunArgs args)).drop args.length

/-- The switch that keeps files and the one that makes the driver list its jobs. -/
def switches : Driver → String × String
  | clang => ("-save-temps", "-###")
  | nvcc => ("--keep", "--dryrun")

theorem dryRunSwitches_eq (driver : Driver) (args : List String) :
    driver.dryRunSwitches args =
      if driver.keepsFiles args = true then [driver.switches.2]
      else [driver.switches.1, driver.switches.2] := by
  cases driver <;> rfl

theorem isFlag_switches (driver : Driver) :
    ∀ switch ∈ [driver.switches.1, driver.switches.2],
      switch ∉ driver.valueFlags ∧ isFlag switch = true := by
  cases driver <;> decide

theorem switchRoles_eq (driver : Driver) (args : List String) :
    driver.switchRoles args =
      (if pendingAfter driver.valueFlags false args = true then .value else .flag) ::
        List.replicate (if driver.keepsFiles args = true then 0 else 1) .flag := by
  have hroles : driver.switchRoles args = rolesFrom driver.valueFlags
      (pendingAfter driver.valueFlags false args) (driver.dryRunSwitches args) := by
    rw [switchRoles, dryRunArgs, Arguments.rolesFrom_append]
    exact List.drop_left' (Arguments.length_rolesFrom _ _ _)
  obtain ⟨hkeep, hlist⟩ := List.forall_mem_cons.1 driver.isFlag_switches
  rw [hroles, dryRunSwitches_eq]
  cases pendingAfter driver.valueFlags false args with
  | false =>
    split
    · rw [Arguments.rolesFrom_flags hlist]
      rfl
    · rw [Arguments.rolesFrom_flags driver.isFlag_switches]
      rfl
  | true =>
    split
    · rfl
    · rw [rolesFrom, Arguments.rolesFrom_flags hlist]
      rfl

/-- All switches of a dry run are read as flags exactly if the arguments of the driver do not end in
a flag that waits for its value. Else the first one is read as that value; it is the last one too,
the one that keeps the driver from running its jobs, exactly if the arguments ask for the
intermediate files themselves. -/
theorem switchRoles_eq_flag_iff (driver : Driver) (args : List String) :
    ((∀ role ∈ driver.switchRoles args, role = .flag) ↔
      pendingAfter driver.valueFlags false args = false) ∧
    ((driver.switchRoles args).head? = some .value ↔
      pendingAfter driver.valueFlags false args = true) ∧
    ((driver.switchRoles args).getLast? = some .value ↔
      pendingAfter driver.valueFlags false args = true ∧ driver.keepsFiles args = true) := by
  rw [switchRoles_eq]
  cases pendingAfter driver.valueFlags false args <;> cases driver.keepsFiles args <;> decide

/-- Both drivers run their jobs if the arguments keep intermediate files and end in a flag that
waits for its value. -/
theorem switchRoles_waiting :
    clang.dryRunArgs ["-save-temps", "a.c", "-o"] = ["-save-temps", "a.c", "-o", "-###"] ∧
    clang.switchRoles ["-save-temps", "a.c", "-o"] = [.value] ∧
    nvcc.dryRunArgs ["--keep", "a.cu", "-Xcompiler"] =
      ["--keep", "a.cu", "-Xcompiler", "--dryrun"] ∧
    nvcc.switchRoles ["--keep", "a.cu", "-Xcompiler"] = [.value] := by
  decide +kernel

end CompilerCommands.Driver
