import CompilerCommands.Proofs.Discovery.Nesting
import CompilerCommands.Proofs.Discovery.Rediscovery
import CompilerCommands.Proofs.Session

/-!
# All or nothing

A call that discovers the jobs of a driver again replaces its jobs as a whole or leaves them alone.
It leaves them alone if the dry run of the driver itself is cancelled, and if the call fails, be it
at a driver far below, when some of the new commands have been made already.
-/

namespace CompilerCommands

/-! ## Why a discovery fails -/

namespace Stage

/-- A discovery fails because the driver is not found, or with what its own dry run came to, or
because that of a driver below it, however deep, came to what is kept with no driver. -/
inductive Fails (terms : Terms) (stage : Stage) : Failure → Prop
  | missing (h : stage.world.host.findExecutable? stage.call.executable stage.call.workingDir
      terms.extraEnv = none) :
    Fails terms stage (.error (.toolchainNotFound stage.call.executable none))
  | dryRun {program : Path} {result : RunResult} {failure : Failure}
      (h : DryRunEnds terms stage.world (stage.kind, stage.call) program result)
      (hfails : DryRunFails terms program.toString
        (Shell.quote (dryRunWords (stage.kind, stage.call) program)) result failure) :
    Fails terms stage failure
  | below {lower : Stage} {failure : Failure}
      (hreach : Relation.TransGen (Nests terms) stage lower)
      (hbreaks : lower.Breaks terms failure) :
    Fails terms stage failure

variable {terms : Terms} {stage : Stage} {failure : Failure} {depth : Nat} {after : World}
  {found : Discovered}

/-- There is no other reason, unless the depth is too small. Then a process has been attempted at
each level. -/
theorem fails_of_discover (h : stage.discover terms depth = (.error failure, after)) :
    stage.Fails terms failure ∨
      failure = .tooDeep ∧ stage.world.attempts.length + depth ≤ after.attempts.length := by
  cases depth with
  | zero =>
    cases h
    exact .inr ⟨rfl, Nat.le_refl _⟩
  | succ depth =>
    obtain ⟨hfind, rfl⟩ | ⟨program, result, hrun, hfails⟩ | ⟨lower, hnests, hlower, hnone⟩ :=
      discover_succ_error h
    · exact .inl (.missing hfind)
    · exact .inl (.dryRun hrun hfails)
    · obtain rfl | ⟨last, hreach, hbreaks⟩ := exists_breaks hlower hnone
      · exact .inr ⟨rfl, attempts_of_tooDeep h⟩
      · exact .inl (.below (.head' hnests hreach) hbreaks)

theorem Fails.discover_succ (h : stage.Fails terms failure) (depth : Nat) :
    (stage.discover terms (depth + 1)).1 = .error failure ∨
      (stage.discover terms (depth + 1)).1 = .error .tooDeep := by
  cases h with
  | missing h =>
    left
    simp only [discover, discoverWithin, discoverWith, h]
  | dryRun h hfails =>
    exact .inl (discoverWithin_of_no_plan (.error failure) h
      (dryRunOutput_eq_error_iff.2 hfails))
  | below hreach hbreaks => exact hbreaks.discover_of_reach hreach.to_reflTransGen (depth + 1)

/-- What is found if the driver's own dry run is not cancelled: commands for the jobs that it
printed. -/
theorem planned_of_discover (h : stage.discover terms depth = (.ok found, after))
    (huncancelled : stage.world.dryRunResult? terms (stage.kind, stage.call) ≠ some .cancelled) :
    ∃ output, stage.world.dryRunResult? terms (stage.kind, stage.call) =
        some (.finished output 0) ∧
      found.state = {} ∧
      found.jobs.map Command.call =
        (jobsOf (.driver stage.kind) output).map (stage.call.ofJob stage.position) ∧
      AsLeft terms (stage.world.dryRun terms (stage.kind, stage.call))
        (Command.driverNodesOf stage.position 0 found.jobs) := by
  have hleft := (leavesAll_discoverWithin terms depth).found h
  obtain ⟨planned, hleaves, hcalls⟩ := hleft.head
  have herror : found.state.error = none := state_discoverWithin h
  simp only [Command.Node.run] at hleaves
  generalize found.state = state at hleaves herror ⊢
  cases hleaves with
  | cancelled h => exact absurd h.dryRunResult? huncancelled
  | planned h => exact ⟨_, h.dryRunResult?, rfl, hcalls, hleft.tail⟩
  | missing | refused | limited | exited | timedOut => cases herror

end Stage

/-! ## A driver -/

namespace Command.Node

variable {node : Node} {again : Rediscovery} {failure : Failure} {found : Discovered}

def stage (node : Node) (world : World) : Stage := ⟨node.position, node.kind, node.call, world⟩

/-- What a call to discover the jobs of a driver again may do to it. -/
structure AllOrNothing (node : Node) (again : Rediscovery) : Prop where
  /-- A call that fails changes nothing. Its failure has a reason, or drivers are nested deeper than
  the stack holds. -/
  failed : ∀ failure, (node.discovery again).1 = .error failure →
    node.rediscover again = node ∧
      ((node.stage again.world).Fails again.terms failure ∨
        failure = .tooDeep ∧ again.world.attempts.length + again.depth ≤
          (node.discovery again).2.attempts.length)
  /-- A call fails whenever there is a reason, so also when it is broken off at a driver below. -/
  fails : ∀ failure, (node.stage again.world).Fails again.terms failure →
    (node.discovery again).1 = .error failure ∨ (node.discovery again).1 = .error .tooDeep
  /-- If the driver's own dry run is cancelled, that is noted, and nothing else changes. -/
  cancelled : again.world.dryRunResult? again.terms node.run = some .cancelled →
    (∃ found, (node.discovery again).1 = .ok found) ∧
      node.rediscover again = { node with state := { node.state with cancelled := true } }
  /-- If the call returns otherwise, the jobs are replaced: there is a command for each job that
  this dry run printed, all drivers below are as their dry runs left them, and the same commands
  are found whatever was there before. -/
  replaced : ∀ found, (node.discovery again).1 = .ok found →
    again.world.dryRunResult? again.terms node.run ≠ some .cancelled →
    ∃ output fresh,
      again.world.dryRunResult? again.terms node.run = some (.finished output 0) ∧
      node.rediscover again = { node with jobs := fresh } ∧
      fresh.map Command.call =
        (jobsOf (.driver node.kind) output).map (node.call.ofJob node.position) ∧
      AsLeft again.terms (again.world.dryRun again.terms node.run)
        (Command.driverNodesOf node.position 0 fresh) ∧
      ∀ state jobs, (rediscover { node with state := state, jobs := jobs } again).jobs = fresh

theorem discovery_eq (node : Node) (again : Rediscovery) :
    node.discovery again =
      ((node.stage again.world).discover again.terms again.depth).map
        (Except.map (Discovered.onto node.state node.jobs)) id :=
  discoverWithin_eq_onto ..

theorem discovery_eq_error_iff :
    (node.discovery again).1 = .error failure ↔
      ((node.stage again.world).discover again.terms again.depth).1 = .error failure := by
  rw [discovery_eq]
  exact map_eq_error_iff

theorem exists_first_of_discovery (h : (node.discovery again).1 = .ok found) :
    ∃ first, ((node.stage again.world).discover again.terms again.depth).1 = .ok first ∧
      ∀ state jobs, (discovery { node with state := state, jobs := jobs } again).1 =
        .ok (first.onto state jobs) := by
  rw [discovery_eq] at h
  obtain ⟨first, hfirst, -⟩ := map_eq_ok_iff.1 h
  refine ⟨first, hfirst, fun state jobs => ?_⟩
  rw [discovery_eq]
  exact map_eq_ok_iff.2 ⟨first, hfirst, rfl⟩

theorem allOrNothing (node : Node) (depth : Nat) (terms : Terms) (world : World) :
    node.AllOrNothing ⟨depth + 1, terms, world⟩ where
  failed failure h := by
    refine ⟨rediscover_of_error h, ?_⟩
    have hstage := Prod.fst_eq_iff.1 (discovery_eq_error_iff.1 h)
    rw [discovery_eq]
    exact Stage.fails_of_discover hstage
  fails failure h := by
    obtain hfails | htooDeep := h.discover_succ depth
    · exact .inl (discovery_eq_error_iff.2 hfails)
    · exact .inr (discovery_eq_error_iff.2 htooDeep)
  cancelled h := by
    obtain ⟨program, hfound, hends⟩ := Option.map_eq_some_iff.1 h
    have hdiscovery : (node.discovery ⟨depth + 1, terms, world⟩).1 =
        .ok ⟨{ node.state with cancelled := true }, node.jobs⟩ :=
      discoverWithin_of_no_plan (.ok ()) ⟨hfound, hends⟩ rfl
    exact ⟨⟨_, hdiscovery⟩, rediscover_of_ok hdiscovery⟩
  replaced found h huncancelled := by
    obtain ⟨first, hfirst, hdiscovery⟩ := exists_first_of_discovery h
    obtain ⟨output, hresult, hstate, hcalls, hleft⟩ :=
      Stage.planned_of_discover (Prod.fst_eq_iff.1 hfirst) huncancelled
    -- nothing of what was there before is left
    have hagain : ∀ state jobs,
        rediscover { node with state := state, jobs := jobs } ⟨depth + 1, terms, world⟩ =
          { node with state := state, jobs := first.jobs } := by
      intro state jobs
      have honto : first.onto state jobs = ⟨state, first.jobs⟩ := by
        rw [Discovered.onto, hstate, if_neg (by decide)]
      exact rediscover_of_ok ((hdiscovery state jobs).trans (congrArg Except.ok honto))
    exact ⟨output, first.jobs, hresult, hagain node.state node.jobs, hcalls, hleft,
      fun state jobs => by rw [hagain]⟩

end Command.Node

/-! ## Sessions -/

namespace Session

theorem commands_after (session : Session) (token : Option String) (world : World) :
    (session.after token world).commands = session.commands := by
  unfold Session.after
  cases token with
  | none => rfl
  | some token =>
    simp only
    split
    · unfold cancelToken
      split <;> rfl
    · rfl

theorem command?_keep_self (session : Session) (name : String) (command : Command) :
    (session.keep name command).command? name = some command := by
  rw [command?, keep, List.lookup_cons_self]

theorem command?_keep_of_ne (session : Session) {name other : String} (h : other ≠ name)
    (command : Command) : (session.keep name command).command? other = session.command? other := by
  have hfilter : ∀ commands : List (String × Command),
      (commands.filter (·.1 != name)).lookup other = commands.lookup other := by
    intro commands
    induction commands with
    | nil => rfl
    | cons entry rest ih =>
      obtain ⟨first, kept⟩ := entry
      by_cases hfirst : first = name
      · subst hfirst
        rw [List.filter_cons_of_neg (by simp), ih, List.lookup_cons, beq_false_of_ne h]
      · rw [List.filter_cons_of_pos (by simpa using hfirst), List.lookup_cons, List.lookup_cons, ih]
  rw [command?, keep, List.lookup_cons, beq_false_of_ne h]
  exact hfilter session.commands

theorem commands_calling_of_error {α : Type} {session : Session} {options : StepOptions}
    {call : Terms → World → Except Failure α × World} {finish : Session → α → Answer × Session}
    {failure : Failure}
    (h : (call options.terms (session.world options.token)).1 = .error failure) :
    (session.calling options call finish).1.answer = .error failure ∧
      (session.calling options call finish).2.commands = session.commands := by
  unfold calling
  rw [Prod.fst_eq_iff.1 h]
  exact ⟨rfl, commands_after session options.token _⟩

theorem command?_calling_keeping {session : Session} {options : StepOptions} {name : String}
    {call : Terms → World → Except Failure Command × World} {command : Command}
    (h : (call options.terms (session.world options.token)).1 = .ok command) :
    (session.calling options call (keeping name)).1.answer = .ok (.command command) ∧
      (session.calling options call (keeping name)).2.command? name = some command ∧
      ∀ other, other ≠ name → (session.calling options call (keeping name)).2.command? other =
        session.command? other := by
  unfold calling
  rw [Prod.fst_eq_iff.1 h]
  refine ⟨rfl, command?_keep_self .., fun other hother => ?_⟩
  simp only [keeping]
  rw [command?_keep_of_ne _ hother, command?, commands_after, command?]

end Session

/-- A call that discovers the jobs of a driver again, wherever the driver stands and whatever has
been left on it, changes all that it is to change or nothing: see `Command.Node.AllOrNothing`. In a
session, no other command is changed either, and none at all if the call fails. -/
theorem rediscovery_allOrNothing :
    (∀ (node : Command.Node) depth terms world, node.AllOrNothing ⟨depth + 1, terms, world⟩) ∧
    ∀ (session : Session) (options : StepOptions) name (root : Command.Node),
      session.command? name = some root.command → root.position = [] →
      let again : Rediscovery := ⟨maxDepth, options.terms, session.world options.token⟩
      let outcome := session.step (.discover options name)
      (∀ failure, (root.discovery again).1 = .error failure →
        outcome.1.answer = .error failure ∧ outcome.2.commands = session.commands) ∧
      ∀ found, (root.discovery again).1 = .ok found →
        outcome.1.answer = .ok (.command (root.rediscover again).command) ∧
        outcome.2.command? name = some (root.rediscover again).command ∧
        ∀ other, other ≠ name → outcome.2.command? other = session.command? other := by
  refine ⟨Command.Node.allOrNothing, fun session options name root hkept hroot => ?_⟩
  intro again
  have hcall := root.rediscoverWithin_command hroot again
  simp only [Session.step, hkept]
  constructor
  · intro failure hfailure
    refine Session.commands_calling_of_error ?_
    rw [show root.command.rediscoverWithin maxDepth options.terms _ = _ from hcall]
    exact map_eq_error_iff.2 hfailure
  · intro found hfound
    refine Session.command?_calling_keeping ?_
    rw [show root.command.rediscoverWithin maxDepth options.terms _ = _ from hcall]
    exact map_eq_ok_iff.2 ⟨found, hfound, rfl⟩

/-- nvcc plans clang, which plans a job when it runs for the first time, and then does not end. -/
def changingSession : Session where
  host := { cwd := .ofString "/work"
            files := [(.ofString "/bin/nvcc", printing ["#$ clang -c a.c"]),
              (.ofString "/bin/clang",
                { launches := (printing [" ld a.o"]).launches ++
                    [.started { duration := none }] })] }

/-- The session in which nvcc's jobs have been discovered once. -/
def discoveredSession : Session := (changingSession.step (.create {} "nvcc" "nvcc a.cu" false)).2

def brokenOff : StepOptions := { abortAt := some 5 }

def secondPlan : Except Failure (Option (List Job)) × World :=
  discoverJobs brokenOff.terms (.driver .nvcc) (Path.ofString "/bin/nvcc").toString ["a.cu"]
    (.ofString "/work") (discoveredSession.world none)

def secondStage : Stage := ⟨[], .nvcc, nvccRun.2, discoveredSession.world none⟩

theorem secondStage_fails : secondStage.Fails brokenOff.terms .aborted := by
  have hplanned : secondPlan.1 = .ok (some ([] ++ ⟨"clang", ["-c", "a.c"]⟩ :: [])) :=
    eq_ok_of_toOption (by decide +kernel)
  have hplans : secondStage.Plans brokenOff.terms ([] ++ ⟨"clang", ["-c", "a.c"]⟩ :: [])
      secondPlan.2 :=
    ⟨.ofString "/bin/nvcc", by decide +kernel, Prod.fst_eq_iff.1 hplanned⟩
  have hdone : jobCommands (discoverWithin brokenOff.terms 0) secondStage.position secondStage.call
      0 [] secondPlan.2 = (.ok [], secondPlan.2) := rfl
  have hrole : Job.role ⟨"clang", ["-c", "a.c"]⟩ = .driver .clang := by decide +kernel
  have hnests := Stage.Nests.job hplans hdone hrole
  exact .below (.single hnests) (.aborted (by decide +kernel))

/-- What is below nvcc's jobs stays when the call is broken off there. -/
theorem rediscovery_allOrNothing_below :
    ∃ root : Command.Node, discoveredSession.command? "nvcc" = some root.command ∧
      root.jobs.map (fun job => job.jobs.map (·.call.words)) = [[["ld", "a.o"]]] ∧
      root.rediscover ⟨maxDepth, brokenOff.terms, discoveredSession.world none⟩ = root ∧
      (discoveredSession.step (.discover brokenOff "nvcc")).2.commands =
        discoveredSession.commands := by
  have hview : (discoveredSession.command? "nvcc").map (fun command =>
      (command.driver?, command.jobs.map fun job => job.jobs.map (·.call.words))) =
      some (some nvccRun, [[["ld", "a.o"]]]) := by
    decide +kernel
  obtain ⟨command, hkept, hcommand⟩ := Option.map_eq_some_iff.1 hview
  obtain ⟨hdriver, hjobs⟩ := Prod.mk.inj hcommand
  cases command with
  | job tool call => cases hdriver
  | rustc call flags => cases hdriver
  | driver kind call state jobs =>
    obtain ⟨rfl, rfl⟩ := Prod.mk.inj (Option.some.inj hdriver)
    let root : Command.Node := ⟨[], .nvcc, nvccRun.2, state, jobs⟩
    obtain ⟨hnodes, hsessions⟩ := rediscovery_allOrNothing
    have hroot : root.AllOrNothing ⟨maxDepth, brokenOff.terms, discoveredSession.world none⟩ :=
      hnodes root 999 brokenOff.terms (discoveredSession.world none)
    obtain ⟨failure, hfailure⟩ : ∃ failure, (root.discovery ⟨maxDepth, brokenOff.terms,
        discoveredSession.world none⟩).1 = .error failure :=
      (hroot.fails .aborted secondStage_fails).elim (⟨_, ·⟩) (⟨_, ·⟩)
    exact ⟨root, hkept, hjobs, (hroot.failed failure hfailure).1,
      ((hsessions discoveredSession brokenOff "nvcc" root hkept rfl).1 failure hfailure).2⟩

end CompilerCommands
