import CompilerCommands.Proofs.Discovery.DryRuns

/-!
# Attempts of a creation

Creating a command attempts to start a process for each driver of its tree, once, in the order of a
walk. Left out are the drivers whose program is not found and those that are reached when the call
has been cancelled. Nothing else is attempted.
-/

namespace CompilerCommands

/-! ## Drivers as they are reached -/

/-- Drivers whose dry runs are done one after another, with the worlds in which they are reached. -/
def reached (terms : Terms) (world : World) :
    List (Driver × Invocation) → List (World × Driver × Invocation)
  | [] => []
  | node :: rest => (world, node) :: reached terms (world.dryRun terms node) rest

/-- What is started in the directory `dir` for a driver that is reached in `world`. -/
def start? (terms : Terms) (host : Host) (dir : Path) :
    World × Driver × Invocation → Option Start
  | (world, driver, call) =>
    if terms.cancellable && world.cancelled then none
    else
      (host.findExecutable? call.executable dir terms.extraEnv).map fun program =>
        ⟨program.toString :: driver.dryRunArgs call.args, dir, host.env.override terms.extraEnv⟩

section

variable {terms : Terms} {host : Host} {dir : Path}

theorem start?_unstarted (node : World × Driver × Invocation) :
    start? terms host.unstarted dir node = start? terms host dir node := rfl

theorem dryRun_host (world : World) (node : Driver × Invocation) :
    (world.dryRun terms node).host.unstarted = world.host.unstarted := by
  unfold World.dryRun
  split
  · rfl
  · exact run_host terms _ _ world

theorem dryRun_attempts (terms : Terms) (world : World) (node : Driver × Invocation) :
    ∃ new, (world.dryRun terms node).attempts = world.attempts ++ new ∧
      new.map Attempt.start =
        (start? terms world.host node.2.workingDir (world, node)).toList := by
  obtain ⟨driver, call⟩ := node
  cases hfind : world.host.findExecutable? call.executable call.workingDir terms.extraEnv with
  | none =>
    refine ⟨[], ?_, ?_⟩
    · rw [World.dryRun_of_none world (driver, call) hfind, List.append_nil]
    · simp only [start?, hfind, Option.map_none, ite_self]
      rfl
  | some program =>
    obtain ⟨new, hnew, hstart⟩ := run_attempts terms
      (program.toString :: driver.dryRunArgs call.args) call.workingDir world
    refine ⟨new, ?_, ?_⟩
    · rw [World.dryRun_of_some world (driver, call) hfind, hnew]
    · rw [hstart]
      simp only [start?, hfind, Option.map_some]
      split <;> rfl

/-- Dry runs one after another attempt what is to be started for each driver as it is reached. -/
theorem foldl_dryRun_attempts {nodes : List (Driver × Invocation)}
    (hdir : ∀ node ∈ nodes, node.2.workingDir = dir) (world : World)
    (hhost : world.host.unstarted = host.unstarted) :
    ∃ new, (nodes.foldl (World.dryRun terms) world).attempts = world.attempts ++ new ∧
      new.map Attempt.start = (reached terms world nodes).filterMap (start? terms host dir) := by
  induction nodes generalizing world with
  | nil => exact ⟨[], (List.append_nil _).symm, rfl⟩
  | cons node rest ih =>
    obtain ⟨first, hfirst, hstart⟩ := dryRun_attempts terms world node
    obtain ⟨others, hothers, hstarts⟩ := ih (fun n hn => hdir n (List.mem_cons_of_mem _ hn))
      (world.dryRun terms node) ((dryRun_host world node).trans hhost)
    refine ⟨first ++ others, ?_, ?_⟩
    · rw [List.foldl_cons, hothers, hfirst, List.append_assoc]
    · rw [hdir node (List.mem_cons_self ..), ← start?_unstarted, hhost, start?_unstarted] at hstart
      rw [List.map_append, hstart, hstarts, reached, List.filterMap_cons]
      cases start? terms host dir (world, node) <;> rfl

end

/-! ## Creation -/

theorem workingDir_createWithin {depth : Nat} {terms : Terms} {strict : Bool} {line : String}
    {dir : Path} {world after : World} {command : Command}
    (h : createWithin depth terms strict line dir world = (.ok command, after)) :
    command.call.workingDir = dir := by
  obtain ⟨-, -, hdir, -⟩ := invocation_createWithin h
  exact hdir

/-- Creating a command is the dry runs of the drivers of its tree, in the order of a walk: each is
attempted once, in the directory of the root, if its program is found and the call has not been
cancelled when it is reached. A line that does not begin with a driver starts nothing. -/
theorem createWithin_attempts (depth : Nat) (terms : Terms) (strict : Bool) (line : String)
    (dir : Path) (world : World) :
    (∀ command after, createWithin depth terms strict line dir world = (.ok command, after) →
      command.call.workingDir = dir ∧
      after.unlogged = (command.drivers.foldl (World.dryRun terms) world).unlogged ∧
      ∃ new, after.attempts = world.attempts ++ new ∧
        new.map Attempt.start =
          (reached terms world command.drivers).filterMap (start? terms world.host dir)) ∧
    ((∀ executable args, tokenize line = .ok (executable :: args) →
        ∀ driver, Toolchain.classify executable ≠ some (.driver driver)) →
      (createWithin depth terms strict line dir world).2 = world) := by
  refine ⟨fun command after h => ?_, fun h => createWithin_of_no_driver h _ _ _ _ _⟩
  have hruns := dryRuns_createWithin h
  obtain ⟨new, hnew, hstarts⟩ := foldl_dryRun_attempts hruns.dirs world rfl
  refine ⟨workingDir_createWithin h, hruns.unlogged, new, ?_, hstarts⟩
  have hattempts := congrArg World.attempts hruns.unlogged
  exact hattempts.trans hnew

/-- A file whose process prints `lines`. -/
def printing (lines : List String) : File where
  launches := [.started { output := Text.Utf8.encode ("\n".intercalate lines).toList }]

/-- nvcc plans two drivers, and only the second of them is there. -/
def nvccWorld : World where
  host := { cwd := .ofString "/work"
            files := [(.ofString "/bin/nvcc", printing ["#$ clang -c a.c", "#$ gcc -c b.c"]),
              (.ofString "/bin/gcc", printing [" as -o b.o b.s"])] }

theorem createWithin_attempts_nested :
    (createWithin 3 {} false "nvcc a.cu" (.ofString "/work") nvccWorld).2.attempts.map
        Attempt.start =
      [⟨["/bin/nvcc", "a.cu", "--keep", "--dryrun"], .ofString "/work", {}⟩,
        ⟨["/bin/gcc", "-c", "b.c", "-save-temps", "-###"], .ofString "/work", {}⟩] ∧
    (createWithin 3 {} false "as a.s" (.ofString "/work") nvccWorld).2 = nvccWorld := by
  have hall := createWithin_attempts 3 {} false "nvcc a.cu" (.ofString "/work") nvccWorld
  have hstarts : (createWithin 3 {} false "nvcc a.cu" (.ofString "/work") nvccWorld).1.toOption.map
      (fun command => (reached {} nvccWorld command.drivers).filterMap
        (start? {} nvccWorld.host (.ofString "/work"))) =
      some [⟨["/bin/nvcc", "a.cu", "--keep", "--dryrun"], .ofString "/work", {}⟩,
        ⟨["/bin/gcc", "-c", "b.c", "-save-temps", "-###"], .ofString "/work", {}⟩] := by
    decide +kernel
  refine ⟨?_, (createWithin_attempts 3 {} false "as a.s" (.ofString "/work") nvccWorld).2 ?_⟩
  · cases hmade : createWithin 3 {} false "nvcc a.cu" (.ofString "/work") nvccWorld with
    | mk result after =>
      rw [hmade] at hstarts hall
      cases result with
      | error failure => cases hstarts
      | ok command =>
        obtain ⟨-, -, new, hnew, hnewStarts⟩ := hall.1 command after rfl
        rw [hnew]
        exact hnewStarts.trans (Option.some.inj hstarts)
  · intro executable args hwords driver
    have hword : (tokenize "as a.s").toOption = some ["as", "a.s"] := by decide +kernel
    rw [hwords] at hword
    cases hword
    cases driver <;> decide +kernel

end CompilerCommands
