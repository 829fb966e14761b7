import CompilerCommands.Proofs.Command.Nodes
import CompilerCommands.Proofs.Discovery.Cases
import CompilerCommands.Proofs.Execution.Frame

/-!
# Discovery as a row of dry runs

What discovery does to the world, the log aside, is the dry run of the driver and then of each
driver that is found below it, in the order of a walk. A driver whose dry run fails has nothing
below it, so this is also true of the drivers that keep an error.
-/

namespace CompilerCommands

/-- The world after the dry run of a driver. Nothing is run if its program is not found. -/
def World.dryRun (terms : Terms) (world : World) (node : Driver × Invocation) : World :=
  match world.host.findExecutable? node.2.executable node.2.workingDir terms.extraEnv with
  | none => world
  | some program =>
    (run terms (program.toString :: node.1.dryRunArgs node.2.args) node.2.workingDir world).2

theorem World.dryRun_of_none {terms : Terms} (world : World) (node : Driver × Invocation)
    (h : world.host.findExecutable? node.2.executable node.2.workingDir terms.extraEnv = none) :
    world.dryRun terms node = world := by
  rw [World.dryRun, h]

theorem World.dryRun_of_some {terms : Terms} (world : World) (node : Driver × Invocation)
    {program : Path} (h : world.host.findExecutable? node.2.executable node.2.workingDir
      terms.extraEnv = some program) :
    world.dryRun terms node = (run terms (program.toString :: node.1.dryRunArgs node.2.args)
      node.2.workingDir world).2 := by
  rw [World.dryRun, h]

theorem World.unlogged_dryRun (terms : Terms) (world : World) (node : Driver × Invocation) :
    (world.dryRun terms node).unlogged = world.unlogged.dryRun terms node := by
  cases h : world.host.findExecutable? node.2.executable node.2.workingDir terms.extraEnv with
  | none => rw [dryRun_of_none world node h, dryRun_of_none world.unlogged node h]
  | some program =>
    rw [dryRun_of_some world node h, dryRun_of_some world.unlogged node h]
    exact congrArg Prod.snd (run_unlogged terms _ node.2.workingDir world)

theorem World.unlogged_foldl_dryRun (terms : Terms) (world : World)
    (nodes : List (Driver × Invocation)) :
    (nodes.foldl (World.dryRun terms) world).unlogged =
      nodes.foldl (World.dryRun terms) world.unlogged := by
  induction nodes generalizing world with
  | nil => rfl
  | cons node rest ih => rw [List.foldl_cons, List.foldl_cons, ih, World.unlogged_dryRun]

/-- Dry runs of `nodes` in the directory `dir`, one after another, lead from `world` to `after`, the
log aside. -/
structure DryRuns (terms : Terms) (dir : Path) (world : World)
    (nodes : List (Driver × Invocation)) (after : World) : Prop where
  dirs : ∀ node ∈ nodes, node.2.workingDir = dir
  unlogged : after.unlogged = (nodes.foldl (World.dryRun terms) world).unlogged

namespace DryRuns

variable {terms : Terms} {dir : Path} {world mid after : World}
  {first second : List (Driver × Invocation)}

theorem refl (terms : Terms) (dir : Path) (world : World) : DryRuns terms dir world [] world :=
  ⟨by simp, rfl⟩

theorem append (h : DryRuns terms dir world first mid) (h' : DryRuns terms dir mid second after) :
    DryRuns terms dir world (first ++ second) after where
  dirs node hn := (List.mem_append.1 hn).elim (h.dirs node) (h'.dirs node)
  unlogged := by
    rw [h'.unlogged, World.unlogged_foldl_dryRun, h.unlogged, ← World.unlogged_foldl_dryRun,
      List.foldl_append]

theorem log (h : DryRuns terms dir world first after) (level : LogLevel) (source : LogSource)
    (message : String) : DryRuns terms dir world first (after.log level source message) :=
  ⟨h.dirs, h.unlogged⟩

end DryRuns

/-! ## One dry run -/

section

variable {terms : Terms} {world : World} {call : Invocation}

theorem readJobs_unlogged (kind : Toolchain) (executable line : String) (world : World)
    (output : Except Failure (Option String)) :
    (readJobs kind executable line world output).2.unlogged = world.unlogged := by
  unfold readJobs
  split <;> rfl

theorem discoverJobs_unlogged (terms : Terms) (world : World) (driver : Driver)
    (executable : String) (args : List String) (dir : Path) :
    (discoverJobs terms (.driver driver) executable args dir world).2.unlogged =
      (run terms (executable :: driver.dryRunArgs args) dir world).2.unlogged := by
  unfold discoverJobs
  simp only [Toolchain.dryRunWords?, Toolchain.dryRunArgs?, Option.map_some, readJobs_unlogged]
  exact unlogged_run_of_eq (World.unlogged_log world _ _ _) terms _ dir

theorem dryRuns_of_not_found (driver : Driver) (h : world.host.findExecutable? call.executable
    call.workingDir terms.extraEnv = none) :
    DryRuns terms call.workingDir world [(driver, call)] world where
  dirs node hn := by rw [List.mem_singleton.1 hn]
  unlogged := by rw [List.foldl_cons, List.foldl_nil, World.dryRun_of_none world (driver, call) h]

theorem dryRuns_discoverJobs (driver : Driver) {program : Path} {after : World}
    {result : Except Failure (Option (List Job))}
    (h : world.host.findExecutable? call.executable call.workingDir terms.extraEnv = some program)
    (hjobs : discoverJobs terms (.driver driver) program.toString call.args call.workingDir world =
      (result, after)) :
    DryRuns terms call.workingDir world [(driver, call)] after where
  dirs node hn := by rw [List.mem_singleton.1 hn]
  unlogged := by
    have hafter := discoverJobs_unlogged terms world driver program.toString call.args
      call.workingDir
    rw [List.foldl_cons, List.foldl_nil, World.dryRun_of_some world (driver, call) h, ← hafter,
      hjobs]

end

/-! ## All of them -/

abbrev driversOf (commands : List Command) : List (Driver × Invocation) :=
  commands.flatMap Command.drivers

/-- What a discoverer does is the dry runs of the driver and of the drivers that it finds below, or
just that of the driver if it fails with an error that is kept. -/
structure Discoverer.OnlyDryRuns (terms : Terms) (discover : Discoverer) : Prop where
  found : ∀ {here driver call state world found after},
    discover here driver call state [] world = (.ok found, after) →
    DryRuns terms call.workingDir world ((driver, call) :: driversOf found.jobs) after
  kept : ∀ {here driver call state world failure recorded after},
    discover here driver call state [] world = (.error failure, after) →
    recordNested? here failure = some recorded →
    DryRuns terms call.workingDir world [(driver, call)] after

section

variable {terms : Terms} {discover : Discoverer} {here : Position} {parent : Invocation} {n : Nat}
  {world after : World}

theorem dryRuns_jobCommand (hd : discover.OnlyDryRuns terms) {job : Job} {command : Command}
    (h : jobCommand discover here parent n job world = (.ok command, after)) :
    DryRuns terms parent.workingDir world command.drivers after := by
  unfold jobCommand at h
  simp only at h
  split at h
  · obtain ⟨found, hf, rfl⟩ | ⟨failure, last, recorded, hf, hr, rfl, rfl⟩ := nestedDriver_ok h
    · rw [Command.drivers_driver]
      exact hd.found hf
    · rw [Command.drivers_driver]
      exact (hd.kept hf hr).log _ _ _
  · cases h
    exact DryRuns.refl _ _ _
  · cases h
    exact DryRuns.refl _ _ _

theorem dryRuns_jobCommands (hd : discover.OnlyDryRuns terms) {jobs : List Job}
    {commands : List Command}
    (h : jobCommands discover here parent n jobs world = (.ok commands, after)) :
    DryRuns terms parent.workingDir world (driversOf commands) after := by
  induction jobs generalizing n world commands with
  | nil =>
    cases h
    exact DryRuns.refl _ _ _
  | cons job rest ih =>
    obtain ⟨first, mid, others, hfirst, hothers, rfl⟩ := jobCommands_cons_ok h
    exact (dryRuns_jobCommand hd hfirst).append (ih hothers)

theorem onlyDryRuns_discoverWith (hd : discover.OnlyDryRuns terms) :
    (discoverWith discover terms).OnlyDryRuns terms where
  found := by
    intro here driver call state world found after h
    obtain ⟨program, hfind, ⟨hjobs, rfl⟩ | ⟨planned, mid, hjobs, hcommands, -⟩⟩ :=
      discoverWith_ok h
    · exact dryRuns_discoverJobs driver hfind hjobs
    · exact (dryRuns_discoverJobs driver hfind hjobs).append (dryRuns_jobCommands hd hcommands)
  kept := by
    intro here driver call state world failure recorded after h hr
    obtain ⟨hfind, -, rfl⟩ | ⟨program, hfind, hjobs | ⟨planned, mid, -, hcommands⟩⟩ :=
      discoverWith_error h
    · exact dryRuns_of_not_found driver hfind
    · exact dryRuns_discoverJobs driver hfind hjobs
    · rw [jobCommands_error here hcommands] at hr
      cases hr

end

theorem onlyDryRuns_discoverWithin (terms : Terms) (depth : Nat) :
    (discoverWithin terms depth).OnlyDryRuns terms := by
  induction depth with
  | zero =>
    constructor
    · intro here driver call state world found after h
      cases h
    · intro here driver call state world failure recorded after h hr
      cases h
      cases hr
  | succ depth ih => exact onlyDryRuns_discoverWith ih

/-- What creating a command does to the world, the log aside, is the dry runs of its drivers. -/
theorem dryRuns_createWithin {depth : Nat} {terms : Terms} {strict : Bool} {line : String}
    {dir : Path} {world after : World} {command : Command}
    (h : createWithin depth terms strict line dir world = (.ok command, after)) :
    DryRuns terms dir world command.drivers after := by
  have hd := onlyDryRuns_discoverWithin terms depth
  obtain ⟨call, -, -, rfl, -, ⟨-, rfl, rfl⟩ | ⟨driver, -, hsettle⟩⟩ := createWithin_ok h
  · exact DryRuns.refl _ _ _
  · obtain ⟨found, hf, rfl⟩ | ⟨cause, last, hf, -, rfl, rfl⟩ := settle_ok hsettle
    · rw [Command.drivers_driver]
      exact hd.found hf
    · rw [Command.drivers_driver]
      exact (hd.kept hf rfl).log _ _ _

end CompilerCommands
