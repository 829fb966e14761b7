import CompilerCommands.Proofs.Discovery.Attempts
import CompilerCommands.Proofs.Discovery.Outcomes
import CompilerCommands.Proofs.Shell.ReadBack

/-!
# Where the commands of a tree come from

A created tree shows what the dry runs printed: below each driver stand the jobs of its dry run, and
nothing else. A command below a driver is the invocation of one job, so it knows its driver, keeps
the directory, and has the words of its line.
-/

namespace CompilerCommands

variable {terms : Terms} {world : World} {here : Position} {node : Driver × Invocation}

/-! ## One driver -/

theorem DryRunEnds.unique {program other : Path} {result last : RunResult}
    (h : DryRunEnds terms world node program result) (h' : DryRunEnds terms world node other last) :
    program = other ∧ result = last := by
  have hprogram : program = other := Option.some.inj (h.found.symm.trans h'.found)
  subst hprogram
  exact ⟨rfl, h.ends.symm.trans h'.ends⟩

/-- A cancelled dry run is shown by the state of its driver, a successful one by the jobs, and no
other leaves jobs. -/
theorem Leaves.result_cases {program : Path} {result : RunResult} {state : DiscoveryState}
    {planned : List Job} (h : Leaves terms world here node state planned)
    (hrun : DryRunEnds terms world node program result) :
    (result = .cancelled ∧ state.cancelled = true ∧ planned = []) ∨
    (∃ output, result = .finished output 0 ∧ planned = jobsOf (.driver node.1) output) ∨
    (result ≠ .cancelled ∧ result ≠ .aborted ∧ (∀ output, result ≠ .finished output 0) ∧
      planned = []) := by
  cases h with
  | missing h => cases h.symm.trans hrun.found
  | refused h _ =>
    obtain ⟨-, rfl⟩ := h.unique hrun
    exact .inr (.inr ⟨nofun, nofun, nofun, rfl⟩)
  | limited h _ _ =>
    obtain ⟨-, rfl⟩ := h.unique hrun
    exact .inr (.inr ⟨nofun, nofun, nofun, rfl⟩)
  | exited h hs =>
    obtain ⟨-, rfl⟩ := h.unique hrun
    refine .inr (.inr ⟨nofun, nofun, fun output houtput => ?_, rfl⟩)
    cases houtput
    exact hs rfl
  | timedOut h =>
    obtain ⟨-, rfl⟩ := h.unique hrun
    exact .inr (.inr ⟨nofun, nofun, nofun, rfl⟩)
  | cancelled h =>
    obtain ⟨-, rfl⟩ := h.unique hrun
    exact .inl ⟨rfl, rfl, rfl⟩
  | planned h =>
    obtain ⟨-, rfl⟩ := h.unique hrun
    exact .inr (.inl ⟨_, rfl, rfl⟩)

theorem Leaves.planned_eq {program : Path} {output : String} {state : DiscoveryState}
    {planned : List Job} (h : Leaves terms world here node state planned)
    (hrun : DryRunEnds terms world node program (.finished output 0)) :
    planned = jobsOf (.driver node.1) output := by
  obtain ⟨hresult, -⟩ | ⟨text, hresult, hplanned⟩ | ⟨-, -, hresult, -⟩ := h.result_cases hrun
  · cases hresult
  · cases hresult
    exact hplanned
  · exact absurd rfl (hresult output)

theorem Leaves.planned_eq_nil {state : DiscoveryState} {planned : List Job}
    (h : Leaves terms world here node state planned)
    (hrun : ∀ program output, ¬DryRunEnds terms world node program (.finished output 0)) :
    planned = [] := by
  cases h with
  | planned h => exact absurd h (hrun _ _)
  | _ => rfl

theorem Leaves.owner_eq {state : DiscoveryState} {planned : List Job}
    (h : Leaves terms world here node state planned) {cause : DryRunError}
    {owner : Option Position} (herror : state.error = some ⟨.dryRunFailed cause, owner⟩) :
    owner = some here := by
  cases h <;> cases herror <;> rfl

/-! ## The whole tree -/

theorem map_snd_visits (terms : Terms) (world : World) (nodes : List Command.Node) :
    (visits terms world nodes).map Prod.snd = nodes := by
  induction nodes generalizing world with
  | nil => rfl
  | cons node rest ih => exact congrArg (node :: ·) (ih _)

section

variable {root command job : Command}

theorem AsLeft.exists_leftIn {nodes : List Command.Node} {node : Command.Node}
    (h : AsLeft terms world nodes) (hnode : node ∈ nodes) : ∃ mid, node.LeftIn terms mid := by
  rw [← map_snd_visits terms world nodes] at hnode
  obtain ⟨⟨mid, node⟩, hvisit, rfl⟩ := List.mem_map.1 hnode
  exact ⟨mid, h _ hvisit⟩

theorem AsLeft.call_eq_ofJob (h : AsLeft terms world root.driverNodes)
    (hentry : (here, command) ∈ root.walk) (hjob : job ∈ command.jobs) :
    ∃ planned, job.call = command.call.ofJob here planned := by
  cases command with
  | job tool call => cases hjob
  | rustc call flags => cases hjob
  | driver kind call state jobs =>
    have hnode : (⟨here, kind, call, state, jobs⟩ : Command.Node) ∈ root.driverNodes :=
      Command.mem_driverNodes.2 hentry
    obtain ⟨mid, planned, -, hcalls⟩ := h.exists_leftIn hnode
    have hcall : job.call ∈ planned.map (call.ofJob here) := by
      rw [← hcalls]
      exact List.mem_map_of_mem hjob
    obtain ⟨source, -, hsource⟩ := List.mem_map.1 hcall
    exact ⟨source, hsource.symm⟩

theorem map_words_of_map_call {jobs : List Command} {planned : List Job} {parent : Invocation}
    (h : jobs.map Command.call = planned.map (parent.ofJob here)) :
    jobs.map (·.call.words) = planned.map Job.words := by
  have hwords := congrArg (List.map Invocation.words) h
  rw [List.map_map, List.map_map] at hwords
  exact hwords

/-- What holds of the root's invocation, and of the invocation of a job if it holds of that of its
driver, holds of all invocations of the tree. -/
theorem AsLeft.call_induction {motive : Invocation → Prop} (h : AsLeft terms world root.driverNodes)
    (top : motive root.call)
    (below : ∀ (parent : Invocation) here planned, motive parent →
      motive (parent.ofJob here planned)) :
    ∀ entry ∈ root.walk, motive entry.2.call := by
  refine Command.walk_induction (motive := fun _ command => motive command.call) top ?_
  intro here command n next hentry hnext hcommand
  obtain ⟨planned, hcall⟩ := h.call_eq_ofJob hentry (List.mem_of_getElem? hnext)
  rw [hcall]
  exact below command.call here planned hcommand

theorem call_createWithin {depth : Nat} {strict : Bool} {line : String} {dir : Path}
    {world after : World} {command : Command}
    (h : createWithin depth terms strict line dir world = (.ok command, after)) :
    tokenize command.call.rawLine = .ok command.call.words := by
  obtain ⟨hwords, hline, -, -⟩ := invocation_createWithin h
  rw [hline]
  exact hwords

end

/-- A created tree is what the dry runs printed. They are the dry runs of its drivers, one after
another in the order of a walk. Below a driver whose dry run ended with status 0 stand the jobs that
it printed, one for one and in order, and below any other command there is nothing. Each command is
found at its position and knows the position of the driver above it, is in the directory of the
root, and has the words of its line; a failed dry run is kept with the driver that it was for. -/
theorem createWithin_printed (depth : Nat) (terms : Terms) (strict : Bool) (line : String)
    (dir : Path) (world after : World) (command : Command)
    (h : createWithin depth terms strict line dir world = (.ok command, after)) :
    after.unlogged = (command.drivers.foldl (World.dryRun terms) world).unlogged ∧
    (∀ visit ∈ visits terms world command.driverNodes,
      (∀ program output, DryRunEnds terms visit.1 visit.2.run program (.finished output 0) →
        visit.2.jobs.map (·.call.words) =
          (jobsOf (.driver visit.2.kind) output).map Job.words) ∧
      ((∀ program output,
          ¬DryRunEnds terms visit.1 visit.2.run program (.finished output 0)) →
        visit.2.jobs = [])) ∧
    (∀ entry ∈ command.walk, entry.2.driver? = none → entry.2.jobs = []) ∧
    (∀ entry ∈ command.walk, command.at? entry.1 = some entry.2 ∧
      (∀ job ∈ entry.2.jobs, job.call.parent = some entry.1) ∧
      entry.2.call.workingDir = command.call.workingDir ∧
      tokenize entry.2.call.rawLine = .ok entry.2.call.words) ∧
    ∀ node ∈ command.driverNodes, ∀ cause owner,
      node.state.error = some ⟨.dryRunFailed cause, owner⟩ → owner = some node.position := by
  have hleft := asLeft_createWithin h
  refine ⟨(dryRuns_createWithin h).unlogged, fun visit hvisit => ?_, fun entry _ hdriver => ?_,
    fun entry hentry => ⟨?_, ?_, ?_, ?_⟩, fun node hnode cause owner herror => ?_⟩
  · obtain ⟨planned, hleaves, hcalls⟩ := hleft visit hvisit
    constructor
    · intro program output hrun
      rw [map_words_of_map_call hcalls, hleaves.planned_eq hrun]
      rfl
    · intro hrun
      rw [hleaves.planned_eq_nil hrun] at hcalls
      exact List.map_eq_nil_iff.1 hcalls
  · obtain ⟨position, below⟩ := entry
    cases below with
    | driver => cases hdriver
    | _ => rfl
  · exact Command.mem_walk_iff.1 hentry
  · intro job hjob
    obtain ⟨planned, hcall⟩ := hleft.call_eq_ofJob hentry hjob
    rw [hcall]
    rfl
  · exact hleft.call_induction (motive := fun call => call.workingDir = command.call.workingDir) rfl
      (fun _ _ _ hparent => hparent) entry hentry
  · exact hleft.call_induction (motive := fun call => tokenize call.rawLine = .ok call.words)
      (call_createWithin h) (fun _ _ planned _ => tokenize_quote_ok planned.words) entry hentry
  · obtain ⟨mid, planned, hleaves, -⟩ := hleft.exists_leftIn hnode
    exact hleaves.owner_eq herror

theorem createWithin_printed_nested :
    ∃ command after, createWithin 3 {} false "nvcc a.cu" (.ofString "/work") nvccWorld =
        (.ok command, after) ∧
      command.walk.map (fun entry => (entry.1, entry.2.call.words)) =
        [([], ["nvcc", "a.cu"]), ([0], ["clang", "-c", "a.c"]), ([1], ["gcc", "-c", "b.c"]),
          ([1, 0], ["as", "-o", "b.o", "b.s"])] ∧
      ∀ entry ∈ command.walk, tokenize entry.2.call.rawLine = .ok entry.2.call.words := by
  have hwalk : (createWithin 3 {} false "nvcc a.cu" (.ofString "/work") nvccWorld).1.toOption.map
      (fun command => command.walk.map fun entry => (entry.1, entry.2.call.words)) =
      some [([], ["nvcc", "a.cu"]), ([0], ["clang", "-c", "a.c"]), ([1], ["gcc", "-c", "b.c"]),
        ([1, 0], ["as", "-o", "b.o", "b.s"])] := by
    decide +kernel
  cases hmade : createWithin 3 {} false "nvcc a.cu" (.ofString "/work") nvccWorld with
  | mk result after =>
    rw [hmade] at hwalk
    cases result with
    | error failure => cases hwalk
    | ok command =>
      obtain ⟨-, -, -, hplaced, -⟩ := createWithin_printed 3 {} false "nvcc a.cu" _ _ _ _ hmade
      refine ⟨command, after, rfl, Option.some.inj hwalk, fun entry hentry => ?_⟩
      obtain ⟨-, -, -, hwords⟩ := hplaced entry hentry
      exact hwords

end CompilerCommands
