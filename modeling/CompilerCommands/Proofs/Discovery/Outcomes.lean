import CompilerCommands.Proofs.Command.Positions
import CompilerCommands.Proofs.Discovery.DryRuns

/-!
# What dry runs leave

The dry run of a driver leaves it with the jobs that were printed, or with the reason why there are
none. Each driver of a created tree is left so by a dry run of its own, in the world that the dry
runs of the drivers before it have led to.
-/

namespace CompilerCommands

/-! ## One dry run -/

def dryRunWords (node : Driver × Invocation) (program : Path) : List String :=
  program.toString :: node.1.dryRunArgs node.2.args

/-- The program of a driver that is reached in `world`, and what comes of running it. -/
structure DryRunEnds (terms : Terms) (world : World) (node : Driver × Invocation) (program : Path)
    (result : RunResult) : Prop where
  found : world.host.findExecutable? node.2.executable node.2.workingDir terms.extraEnv =
    some program
  ends : (run terms (dryRunWords node program) node.2.workingDir world).1 = result

/-- What comes of the dry run of a driver that is reached in `world`, if its program is found. -/
def World.dryRunResult? (terms : Terms) (world : World) (node : Driver × Invocation) :
    Option RunResult :=
  (world.host.findExecutable? node.2.executable node.2.workingDir terms.extraEnv).map fun program =>
    (run terms (dryRunWords node program) node.2.workingDir world).1

theorem DryRunEnds.dryRunResult? {terms : Terms} {world : World} {node : Driver × Invocation}
    {program : Path} {result : RunResult} (h : DryRunEnds terms world node program result) :
    world.dryRunResult? terms node = some result := by
  rw [World.dryRunResult?, h.found, Option.map_some, h.ends]

/-- What a dry run can leave on the driver at `here` that is reached in `world`: what is kept with
the driver, and the jobs that are planned. -/
inductive Leaves (terms : Terms) (world : World) (here : Position) (node : Driver × Invocation) :
    DiscoveryState → List Job → Prop
  | missing (h : world.host.findExecutable? node.2.executable node.2.workingDir terms.extraEnv =
      none) :
    Leaves terms world here node
      { error := some ⟨.toolchainNotFound node.2.executable none, none⟩ } []
  | refused {program : Path} {error : StartError}
      (h : DryRunEnds terms world node program (.refused error)) (ht : error.isTimeout = false) :
    Leaves terms world here node
      { error := some ⟨.toolchainNotFound program.toString (some error.message), none⟩ } []
  | limited {program : Path} {error : StartError} {limit : TimeLimit}
      (h : DryRunEnds terms world node program (.refused error)) (ht : error.isTimeout = true)
      (hl : terms.limit = some limit) :
    Leaves terms world here node
      { error := some ⟨.dryRunFailed (.timedOut (Shell.quote (dryRunWords node program)) limit),
        some here⟩ } []
  | exited {program : Path} {output : String} {status : Int}
      (h : DryRunEnds terms world node program (.finished output status)) (hs : status ≠ 0) :
    Leaves terms world here node
      { error := some ⟨.dryRunFailed (.exited (Shell.quote (dryRunWords node program)) status
        output), some here⟩ } []
  | timedOut {program : Path} {limit : TimeLimit}
      (h : DryRunEnds terms world node program (.timedOut limit)) :
    Leaves terms world here node
      { error := some ⟨.dryRunFailed (.timedOut (Shell.quote (dryRunWords node program)) limit),
        some here⟩ } []
  | cancelled {program : Path} (h : DryRunEnds terms world node program .cancelled) :
    Leaves terms world here node { cancelled := true } []
  | planned {program : Path} {output : String}
      (h : DryRunEnds terms world node program (.finished output 0)) :
    Leaves terms world here node {} (jobsOf (.driver node.1) output)

section

variable {terms : Terms} {world after : World} {here : Position} {kind : Driver} {call : Invocation}
  {program : Path} {result : RunResult}

theorem host_eq_of_unlogged_eq {a b : World} (h : a.unlogged = b.unlogged) : a.host = b.host :=
  (World.unlogged_eq_iff.1 h).1

theorem run_fst_of_unlogged_eq {a b : World} (h : a.unlogged = b.unlogged) (terms : Terms)
    (words : List String) (dir : Path) : (run terms words dir a).1 = (run terms words dir b).1 := by
  have ha := congrArg Prod.fst (run_unlogged terms words dir a)
  have hb := congrArg Prod.fst (run_unlogged terms words dir b)
  rw [← h] at hb
  exact ha.trans hb.symm

theorem DryRunEnds.of_unlogged_eq {other : World} {node : Driver × Invocation}
    (h : DryRunEnds terms world node program result) (heq : world.unlogged = other.unlogged) :
    DryRunEnds terms other node program result where
  found := by
    rw [← host_eq_of_unlogged_eq heq]
    exact h.found
  ends := (run_fst_of_unlogged_eq heq terms _ _).symm.trans h.ends

theorem Leaves.of_unlogged_eq {other : World} {node : Driver × Invocation} {state : DiscoveryState}
    {planned : List Job} (h : Leaves terms world here node state planned)
    (heq : world.unlogged = other.unlogged) : Leaves terms other here node state planned := by
  cases h with
  | missing h => exact .missing (host_eq_of_unlogged_eq heq ▸ h)
  | refused h ht => exact .refused (h.of_unlogged_eq heq) ht
  | limited h ht hl => exact .limited (h.of_unlogged_eq heq) ht hl
  | exited h hs => exact .exited (h.of_unlogged_eq heq) hs
  | timedOut h => exact .timedOut (h.of_unlogged_eq heq)
  | cancelled h => exact .cancelled (h.of_unlogged_eq heq)
  | planned h => exact .planned (h.of_unlogged_eq heq)

/-! ### What a dry run comes to -/

theorem dryRunOutput_eq_ok_some_iff {executable line output : String} :
    dryRunOutput terms executable line result = .ok (some output) ↔
      result = .finished output 0 := by
  constructor
  · intro h
    unfold dryRunOutput at h
    split at h
    · next printed status =>
      split at h
      · next hstatus =>
        cases h
        rw [hstatus]
      · cases h
    · cases h
    · cases h
    · split at h
      · split at h <;> cases h
      · cases h
    · cases h
    · cases h
  · rintro rfl
    rfl

theorem dryRunOutput_eq_ok_none_iff {executable line : String} :
    dryRunOutput terms executable line result = .ok none ↔ result = .cancelled := by
  constructor
  · intro h
    unfold dryRunOutput at h
    split at h
    · split at h <;> cases h
    · rfl
    · cases h
    · split at h
      · split at h <;> cases h
      · cases h
    · cases h
    · cases h
  · rintro rfl
    rfl

/-- What a dry run fails with that came to a result. In messages it is written as `line`. -/
inductive DryRunFails (terms : Terms) (executable line : String) : RunResult → Failure → Prop
  | exited {output : String} {status : Int} (h : status ≠ 0) :
    DryRunFails terms executable line (.finished output status)
      (.error (.dryRunFailed (.exited line status output)))
  | timedOut {limit : TimeLimit} :
    DryRunFails terms executable line (.timedOut limit)
      (.error (.dryRunFailed (.timedOut line limit)))
  | refused {error : StartError} (h : error.isTimeout = false) :
    DryRunFails terms executable line (.refused error)
      (.error (.toolchainNotFound executable (some error.message)))
  | limited {error : StartError} {limit : TimeLimit} (h : error.isTimeout = true)
      (hlimit : terms.limit = some limit) :
    DryRunFails terms executable line (.refused error)
      (.error (.dryRunFailed (.timedOut line limit)))
  | limitless {error : StartError} (h : error.isTimeout = true) (hlimit : terms.limit = none) :
    DryRunFails terms executable line (.refused error) .limitless
  | aborted : DryRunFails terms executable line .aborted .aborted
  | endless : DryRunFails terms executable line .endless .endless

theorem dryRunOutput_eq_error_iff {executable line : String} {failure : Failure} :
    dryRunOutput terms executable line result = .error failure ↔
      DryRunFails terms executable line result failure := by
  constructor
  · intro h
    cases result with
    | finished output status =>
      simp only [dryRunOutput] at h
      split at h
      · cases h
      · next hstatus =>
        cases h
        exact .exited hstatus
    | cancelled => cases h
    | refused error =>
      simp only [dryRunOutput] at h
      split at h
      · next htimeout =>
        split at h
        · next limit hlimit =>
          cases h
          exact .limited htimeout hlimit
        · next hlimit =>
          cases h
          exact .limitless htimeout hlimit
      · next htimeout =>
        cases h
        exact .refused (Bool.not_eq_true _ ▸ htimeout)
    | timedOut limit =>
      cases h
      exact .timedOut
    | aborted =>
      cases h
      exact .aborted
    | endless =>
      cases h
      exact .endless
  · intro h
    cases h with
    | exited hstatus => rw [dryRunOutput, if_neg hstatus]
    | refused htimeout => simp only [dryRunOutput, htimeout, Bool.false_eq_true, if_false]
    | limited htimeout hlimit => simp only [dryRunOutput, htimeout, hlimit, if_true]
    | limitless htimeout hlimit => simp only [dryRunOutput, htimeout, hlimit, if_true]
    | timedOut | aborted | endless => rfl

theorem DryRunEnds.leaves_failure {node : Driver × Invocation} {failure : Failure}
    {recorded : RecordedError} (h : DryRunEnds terms world node program result)
    (hfails : DryRunFails terms program.toString (Shell.quote (dryRunWords node program)) result
      failure)
    (hr : recordNested? here failure = some recorded) :
    Leaves terms world here node { error := some recorded } [] := by
  cases hfails with
  | exited hstatus =>
    cases hr
    exact .exited h hstatus
  | timedOut =>
    cases hr
    exact .timedOut h
  | refused htimeout =>
    cases hr
    exact .refused h htimeout
  | limited htimeout hlimit =>
    cases hr
    exact .limited h htimeout hlimit
  | limitless | aborted | endless => cases hr

theorem readJobs_fst (kind : Toolchain) (executable line : String) (world : World)
    (output : Except Failure (Option String)) :
    (readJobs kind executable line world output).1 = output.map (Option.map (jobsOf kind)) := by
  unfold readJobs
  split <;> rfl

theorem discoverJobs_result (terms : Terms) (kind : Driver) (executable : String)
    (args : List String) (dir : Path) (world : World) :
    (discoverJobs terms (.driver kind) executable args dir world).1 =
      (dryRunOutput terms executable (Shell.quote (executable :: kind.dryRunArgs args))
        (run terms (executable :: kind.dryRunArgs args) dir world).1).map
          (Option.map (jobsOf (.driver kind))) := by
  unfold discoverJobs
  simp only [Toolchain.dryRunWords?, Toolchain.dryRunArgs?, Option.map_some, readJobs_fst]
  rw [run_fst_of_unlogged_eq (World.unlogged_log world _ _ _) terms _ dir]

theorem discoverJobs_fst (terms : Terms) (kind : Driver) (call : Invocation) (program : Path)
    (world : World) :
    (discoverJobs terms (.driver kind) program.toString call.args call.workingDir world).1 =
      (dryRunOutput terms program.toString (Shell.quote (dryRunWords (kind, call) program))
        (run terms (dryRunWords (kind, call) program) call.workingDir world).1).map
          (Option.map (jobsOf (.driver kind))) :=
  discoverJobs_result terms kind program.toString call.args call.workingDir world

theorem map_eq_ok_iff {ε α β : Type} {f : α → β} {x : Except ε α} {b : β} :
    x.map f = .ok b ↔ ∃ a, x = .ok a ∧ f a = b := by
  cases x <;> simp [Except.map]

theorem map_eq_error_iff {ε α β : Type} {f : α → β} {x : Except ε α} {e : ε} :
    x.map f = .error e ↔ x = .error e := by
  cases x <;> simp [Except.map]

theorem eq_ok_of_toOption {ε α : Type} {x : Except ε α} {a : α} (h : x.toOption = some a) :
    x = .ok a := by
  cases x with
  | error e => cases h
  | ok b => exact congrArg Except.ok (Option.some.inj h)

theorem leaves_of_discoverJobs_none
    (hfind : world.host.findExecutable? call.executable call.workingDir terms.extraEnv =
      some program)
    (h : discoverJobs terms (.driver kind) program.toString call.args call.workingDir world =
      (.ok none, after)) :
    Leaves terms world here (kind, call) { cancelled := true } [] := by
  have houtput := discoverJobs_fst terms kind call program world
  rw [h, eq_comm, map_eq_ok_iff] at houtput
  obtain ⟨output, houtput, hnone⟩ := houtput
  obtain rfl : output = none := Option.map_eq_none_iff.1 hnone
  exact .cancelled ⟨hfind, dryRunOutput_eq_ok_none_iff.1 houtput⟩

theorem leaves_of_discoverJobs_some {planned : List Job}
    (hfind : world.host.findExecutable? call.executable call.workingDir terms.extraEnv =
      some program)
    (h : discoverJobs terms (.driver kind) program.toString call.args call.workingDir world =
      (.ok (some planned), after)) :
    Leaves terms world here (kind, call) {} planned := by
  have houtput := discoverJobs_fst terms kind call program world
  rw [h, eq_comm, map_eq_ok_iff] at houtput
  obtain ⟨output, houtput, hsome⟩ := houtput
  obtain ⟨text, rfl, rfl⟩ := Option.map_eq_some_iff.1 hsome
  exact .planned ⟨hfind, dryRunOutput_eq_ok_some_iff.1 houtput⟩

theorem discoverJobs_eq_error_iff {executable : String} {args : List String} {dir : Path}
    {failure : Failure} :
    (discoverJobs terms (.driver kind) executable args dir world).1 = .error failure ↔
      DryRunFails terms executable (Shell.quote (executable :: kind.dryRunArgs args))
        (run terms (executable :: kind.dryRunArgs args) dir world).1 failure := by
  rw [discoverJobs_result, map_eq_error_iff, dryRunOutput_eq_error_iff]

theorem leaves_of_discoverJobs_error {failure : Failure} {recorded : RecordedError}
    (hfind : world.host.findExecutable? call.executable call.workingDir terms.extraEnv =
      some program)
    (h : discoverJobs terms (.driver kind) program.toString call.args call.workingDir world =
      (.error failure, after))
    (hr : recordNested? here failure = some recorded) :
    Leaves terms world here (kind, call) { error := some recorded } [] := by
  have hfails := discoverJobs_eq_error_iff.1 (congrArg Prod.fst h)
  exact DryRunEnds.leaves_failure ⟨hfind, rfl⟩ hfails hr

/-- A dry run that says nothing about the jobs is all that a discovery does: it was cancelled, or it
failed. -/
theorem discoverWithin_of_no_plan {state : DiscoveryState} {jobs : List Command} {depth : Nat}
    (outcome : Except Failure Unit)
    (hrun : DryRunEnds terms world (kind, call) program result)
    (h : dryRunOutput terms program.toString (Shell.quote (dryRunWords (kind, call) program))
      result = outcome.map fun _ => none) :
    (discoverWithin terms (depth + 1) here kind call state jobs world).1 =
      outcome.map fun _ => ⟨{ state with cancelled := true }, jobs⟩ := by
  have hjobs := discoverJobs_fst terms kind call program world
  rw [hrun.ends, h] at hjobs
  simp only [discoverWithin, discoverWith, hrun.found]
  cases hmade : discoverJobs terms (.driver kind) program.toString call.args call.workingDir
      world with
  | mk planned mid =>
    rw [hmade] at hjobs
    cases outcome with
    | ok _ =>
      obtain rfl : planned = .ok none := hjobs
      rfl
    | error failure =>
      obtain rfl : planned = .error failure := hjobs
      rfl

end

/-! ## A row of dry runs -/

/-- A driver of a tree is as its dry run in `world` left it: with what the dry run leaves, and with
a command for each planned job. -/
def Command.Node.LeftIn (terms : Terms) (world : World) (node : Command.Node) : Prop :=
  ∃ planned, Leaves terms world node.position node.run node.state planned ∧
    node.jobs.map Command.call = planned.map (node.call.ofJob node.position)

/-- The drivers of a row with the worlds in which they are reached, one dry run after another. -/
def visits (terms : Terms) : World → List Command.Node → List (World × Command.Node)
  | _, [] => []
  | world, node :: rest => (world, node) :: visits terms (world.dryRun terms node.run) rest

/-- Each driver of a row is as its dry run left it. -/
def AsLeft (terms : Terms) (world : World) (nodes : List Command.Node) : Prop :=
  ∀ visit ∈ visits terms world nodes, visit.2.LeftIn terms visit.1

section

variable {terms : Terms} {world mid : World} {node : Command.Node}
  {first second rest : List Command.Node}

/-- What holds of a world, and is left alone by dry runs, holds wherever a driver is reached. -/
theorem visits_induction {motive : World → Prop} (start : motive world)
    (step : ∀ mid (node : Driver × Invocation), motive mid → motive (mid.dryRun terms node)) :
    ∀ visit ∈ visits terms world first, motive visit.1 := by
  induction first generalizing world with
  | nil =>
    intro visit hvisit
    cases hvisit
  | cons node rest ih =>
    intro visit hvisit
    rcases List.mem_cons.1 hvisit with rfl | hvisit
    · exact start
    · exact ih (step world node.run start) visit hvisit

theorem AsLeft.nil (terms : Terms) (world : World) : AsLeft terms world [] := by
  intro visit hvisit
  cases hvisit

theorem AsLeft.cons (h : node.LeftIn terms world)
    (hrest : AsLeft terms (world.dryRun terms node.run) rest) :
    AsLeft terms world (node :: rest) := by
  intro visit hvisit
  rcases List.mem_cons.1 hvisit with rfl | hvisit
  · exact h
  · exact hrest visit hvisit

theorem AsLeft.head (h : AsLeft terms world (node :: rest)) : node.LeftIn terms world :=
  h (world, node) (List.mem_cons_self ..)

theorem AsLeft.tail (h : AsLeft terms world (node :: rest)) :
    AsLeft terms (world.dryRun terms node.run) rest :=
  fun visit hvisit => h visit (List.mem_cons_of_mem _ hvisit)

theorem Command.Node.LeftIn.of_unlogged_eq {other : World} (h : node.LeftIn terms world)
    (heq : world.unlogged = other.unlogged) : node.LeftIn terms other := by
  obtain ⟨planned, hleaves, hjobs⟩ := h
  exact ⟨planned, hleaves.of_unlogged_eq heq, hjobs⟩

theorem dryRun_unlogged_eq {a b : World} (h : a.unlogged = b.unlogged) (terms : Terms)
    (node : Driver × Invocation) :
    (a.dryRun terms node).unlogged = (b.dryRun terms node).unlogged := by
  rw [World.unlogged_dryRun, h, ← World.unlogged_dryRun]

theorem AsLeft.of_unlogged_eq {other : World} {nodes : List Command.Node}
    (h : AsLeft terms world nodes) (heq : world.unlogged = other.unlogged) :
    AsLeft terms other nodes := by
  induction nodes generalizing world other with
  | nil => exact AsLeft.nil terms other
  | cons node rest ih =>
    exact .cons (h.head.of_unlogged_eq heq) (ih h.tail (dryRun_unlogged_eq heq terms node.run))

theorem visits_append (terms : Terms) (world : World) (first second : List Command.Node) :
    visits terms world (first ++ second) = visits terms world first ++
      visits terms ((first.map Command.Node.run).foldl (World.dryRun terms) world) second := by
  induction first generalizing world with
  | nil => rfl
  | cons node rest ih => exact congrArg ((world, node) :: ·) (ih (world.dryRun terms node.run))

theorem AsLeft.append {dir : Path} (h : AsLeft terms world first)
    (hruns : DryRuns terms dir world (first.map Command.Node.run) mid)
    (h' : AsLeft terms mid second) : AsLeft terms world (first ++ second) := by
  intro visit hvisit
  rw [visits_append] at hvisit
  rcases List.mem_append.1 hvisit with hfirst | hsecond
  · exact h visit hfirst
  · exact h'.of_unlogged_eq hruns.unlogged visit hsecond

end

/-! ## Discovery -/

/-- A discoverer leaves the driver, and all drivers that it finds below, as their dry runs did. -/
structure Discoverer.LeavesAll (terms : Terms) (discover : Discoverer) : Prop where
  found : ∀ {here kind call world found after},
    discover here kind call {} [] world = (.ok found, after) →
    AsLeft terms world
      (⟨here, kind, call, found.state, found.jobs⟩ :: Command.driverNodesOf here 0 found.jobs)
  kept : ∀ {here kind call world failure recorded after},
    discover here kind call {} [] world = (.error failure, after) →
    recordNested? here failure = some recorded →
    Leaves terms world here (kind, call) { error := some recorded } []

section

variable {terms : Terms} {discover : Discoverer} {here : Position} {parent : Invocation} {n : Nat}
  {world after : World}

theorem call_jobCommand {job : Job} {command : Command}
    (h : jobCommand discover here parent n job world = (.ok command, after)) :
    command.call = parent.ofJob here job := by
  unfold jobCommand at h
  simp only at h
  split at h
  · obtain ⟨found, -, rfl⟩ | ⟨failure, last, recorded, -, -, rfl, -⟩ := nestedDriver_ok h <;> rfl
  · cases h
    rfl
  · cases h
    rfl

theorem map_call_jobCommands {jobs : List Job} {commands : List Command}
    (h : jobCommands discover here parent n jobs world = (.ok commands, after)) :
    commands.map Command.call = jobs.map (parent.ofJob here) := by
  induction jobs generalizing n world commands with
  | nil =>
    cases h
    rfl
  | cons job rest ih =>
    obtain ⟨first, mid, others, hfirst, hothers, rfl⟩ := jobCommands_cons_ok h
    rw [List.map_cons, List.map_cons, call_jobCommand hfirst, ih hothers]

theorem asLeft_single {kind : Driver} {call : Invocation} {recorded : RecordedError}
    (h : Leaves terms world here (kind, call) { error := some recorded } []) :
    AsLeft terms world [⟨here, kind, call, { error := some recorded }, []⟩] :=
  .cons ⟨[], h, rfl⟩ (.nil _ _)

theorem asLeft_jobCommand (hd : discover.LeavesAll terms) {job : Job} {command : Command}
    (h : jobCommand discover here parent n job world = (.ok command, after)) :
    AsLeft terms world ((command.walkFrom (here ++ [n])).filterMap Command.node?) := by
  unfold jobCommand at h
  simp only at h
  split at h
  · obtain ⟨found, hf, rfl⟩ | ⟨failure, last, recorded, hf, hr, rfl, rfl⟩ := nestedDriver_ok h
    · rw [Command.filterMap_node?_driver]
      exact hd.found hf
    · rw [Command.filterMap_node?_driver]
      exact asLeft_single (hd.kept hf hr)
  · cases h
    exact .nil _ _
  · cases h
    exact .nil _ _

theorem asLeft_jobCommands (hd : discover.LeavesAll terms) (hruns : discover.OnlyDryRuns terms)
    {jobs : List Job} {commands : List Command}
    (h : jobCommands discover here parent n jobs world = (.ok commands, after)) :
    AsLeft terms world (Command.driverNodesOf here n commands) := by
  induction jobs generalizing n world commands with
  | nil =>
    cases h
    exact .nil _ _
  | cons job rest ih =>
    obtain ⟨first, mid, others, hfirst, hothers, rfl⟩ := jobCommands_cons_ok h
    have hmid := dryRuns_jobCommand hruns hfirst
    rw [← Command.map_run_walkFrom (here ++ [n])] at hmid
    rw [Command.driverNodesOf_cons]
    exact (asLeft_jobCommand hd hfirst).append hmid (ih hothers)

theorem leavesAll_discoverWith (hd : discover.LeavesAll terms)
    (hruns : discover.OnlyDryRuns terms) : (discoverWith discover terms).LeavesAll terms where
  found := by
    intro here kind call world found after h
    obtain ⟨program, hfind, ⟨hjobs, rfl⟩ | ⟨planned, mid, hjobs, hcommands, hstate⟩⟩ :=
      discoverWith_ok h
    · exact .cons ⟨[], leaves_of_discoverJobs_none hfind hjobs, rfl⟩ (.nil _ _)
    · have hleaves : Leaves terms world here (kind, call) found.state planned := by
        rw [hstate]
        exact leaves_of_discoverJobs_some hfind hjobs
      have hnode : AsLeft terms world [⟨here, kind, call, found.state, found.jobs⟩] :=
        .cons ⟨planned, hleaves, map_call_jobCommands hcommands⟩ (.nil _ _)
      have hbelow := asLeft_jobCommands hd hruns hcommands
      exact hnode.append (dryRuns_discoverJobs kind hfind hjobs) hbelow
  kept := by
    intro here kind call world failure recorded after h hr
    obtain ⟨hfind, rfl, -⟩ | ⟨program, hfind, hjobs | ⟨planned, mid, -, hcommands⟩⟩ :=
      discoverWith_error h
    · cases hr
      exact .missing hfind
    · exact leaves_of_discoverJobs_error hfind hjobs hr
    · -- what the jobs fail with is not kept with their driver
      rw [jobCommands_error here hcommands] at hr
      cases hr

end

theorem leavesAll_discoverWithin (terms : Terms) (depth : Nat) :
    (discoverWithin terms depth).LeavesAll terms := by
  induction depth with
  | zero =>
    constructor
    · intro here kind call world found after h
      cases h
    · intro here kind call world failure recorded after h hr
      cases h
      cases hr
  | succ depth ih => exact leavesAll_discoverWith ih (onlyDryRuns_discoverWithin terms depth)

theorem asLeft_createWithin {depth : Nat} {terms : Terms} {strict : Bool} {line : String}
    {dir : Path} {world after : World} {command : Command}
    (h : createWithin depth terms strict line dir world = (.ok command, after)) :
    AsLeft terms world command.driverNodes := by
  have hd := leavesAll_discoverWithin terms depth
  obtain ⟨call, -, -, rfl, -, ⟨-, rfl, rfl⟩ | ⟨kind, -, hsettle⟩⟩ := createWithin_ok h
  · exact .nil _ _
  · obtain ⟨found, hf, rfl⟩ | ⟨cause, last, hf, -, rfl, rfl⟩ := settle_ok hsettle
    · exact hd.found hf
    · exact asLeft_single (hd.kept hf rfl)

end CompilerCommands
