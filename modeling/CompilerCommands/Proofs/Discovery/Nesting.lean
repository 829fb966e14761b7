import CompilerCommands.Proofs.Discovery.Cancellation
import CompilerCommands.Proofs.Discovery.Depth
import CompilerCommands.Proofs.Discovery.Failures
import CompilerCommands.Proofs.Execution.Endings
import Mathlib.Logic.Relation
import Mathlib.Order.WellFounded

/-!
# Drivers below drivers

The dry run of a driver may print a driver, whose own dry run may print a driver, and so on. No rule
stops that: some stack of calls is deep enough for a discovery exactly if there is no endless chain
of drivers each of which the dry run of the one before has printed.
-/

namespace CompilerCommands

/-- A driver whose jobs are to be discovered, in the world in which that begins. -/
structure Stage where
  position : Position
  kind : Driver
  call : Invocation
  world : World

namespace Stage

def discover (terms : Terms) (depth : Nat) (stage : Stage) : Except Failure Discovered × World :=
  discoverWithin terms depth stage.position stage.kind stage.call {} [] stage.world

/-- The dry run of the driver plans jobs, and leads to the world `mid`. -/
def Plans (terms : Terms) (stage : Stage) (planned : List Job) (mid : World) : Prop :=
  ∃ program,
    stage.world.host.findExecutable? stage.call.executable stage.call.workingDir terms.extraEnv =
      some program ∧
    discoverJobs terms (.driver stage.kind) program.toString stage.call.args stage.call.workingDir
      stage.world = (.ok (some planned), mid)

/-- The discovery for one driver comes to that for another, which is one of its jobs: the jobs
before it are done. -/
inductive Nests (terms : Terms) (upper : Stage) : Stage → Prop
  | job {front rest : List Job} {job : Job} {mid world : World} {depth : Nat}
      {commands : List Command} {kind : Driver}
      (plans : upper.Plans terms (front ++ job :: rest) mid)
      (done : jobCommands (discoverWithin terms depth) upper.position upper.call 0 front mid =
        (.ok commands, world))
      (driver : job.role = .driver kind) :
    Nests terms upper
      ⟨upper.position ++ [front.length], kind, upper.call.ofJob upper.position job, world⟩

/-- The driver is waited for, and nothing ends the waiting. -/
def Hangs (terms : Terms) (stage : Stage) : Prop :=
  stage.world.dryRunResult? terms (stage.kind, stage.call) = some .endless

/-- The dry run of the driver comes to what is kept with no driver: the call is broken off, or
nothing ends the waiting, or the system speaks of a time limit though there is none. -/
inductive Breaks (terms : Terms) (stage : Stage) : Failure → Prop
  | aborted (h : stage.world.dryRunResult? terms (stage.kind, stage.call) = some .aborted) :
    Breaks terms stage .aborted
  | endless (h : stage.Hangs terms) : Breaks terms stage .endless
  | limitless {error : StartError}
    (h : stage.world.dryRunResult? terms (stage.kind, stage.call) = some (.refused error))
    (htimeout : error.isTimeout = true) (hlimit : terms.limit = none) :
    Breaks terms stage .limitless

/-- Some depth is enough for the discovery. -/
def Ends (terms : Terms) (stage : Stage) : Prop :=
  ∃ depth, (stage.discover terms depth).1 ≠ .error .tooDeep

variable {terms : Terms} {upper lower stage : Stage} {planned : List Job} {mid after : World}
  {depth : Nat} {failure : Failure}

/-! ## One level -/

theorem Plans.discover_succ (h : stage.Plans terms planned mid) (depth : Nat) :
    stage.discover terms (depth + 1) =
      (jobCommands (discoverWithin terms depth) stage.position stage.call 0 planned mid).map
        (Except.map (Discovered.mk {})) id := by
  obtain ⟨program, hfind, hjobs⟩ := h
  rw [discover, discoverWithin, discoverWith]
  simp only [hfind, hjobs]
  obtain ⟨commands, last⟩ :=
    jobCommands (discoverWithin terms depth) stage.position stage.call 0 planned mid
  cases commands <;> rfl

theorem Breaks.of_fails {program : Path} {result : RunResult}
    (hrun : DryRunEnds terms stage.world (stage.kind, stage.call) program result)
    (hfails : DryRunFails terms program.toString
      (Shell.quote (dryRunWords (stage.kind, stage.call) program)) result failure)
    (hnone : recordNested? stage.position failure = none) : stage.Breaks terms failure := by
  cases hfails with
  | exited | timedOut | refused | limited => cases hnone
  | limitless htimeout hlimit => exact .limitless hrun.dryRunResult? htimeout hlimit
  | aborted => exact .aborted hrun.dryRunResult?
  | endless => exact .endless hrun.dryRunResult?

theorem Breaks.discover_succ (h : stage.Breaks terms failure) (depth : Nat) :
    (stage.discover terms (depth + 1)).1 = .error failure := by
  have hended : ∃ program result,
      DryRunEnds terms stage.world (stage.kind, stage.call) program result ∧
      DryRunFails terms program.toString
        (Shell.quote (dryRunWords (stage.kind, stage.call) program)) result failure := by
    cases h with
    | aborted h =>
      obtain ⟨program, hfound, hends⟩ := Option.map_eq_some_iff.1 h
      exact ⟨program, _, ⟨hfound, hends⟩, .aborted⟩
    | endless h =>
      obtain ⟨program, hfound, hends⟩ := Option.map_eq_some_iff.1 h
      exact ⟨program, _, ⟨hfound, hends⟩, .endless⟩
    | limitless h htimeout hlimit =>
      obtain ⟨program, hfound, hends⟩ := Option.map_eq_some_iff.1 h
      exact ⟨program, _, ⟨hfound, hends⟩, .limitless htimeout hlimit⟩
  obtain ⟨program, result, hrun, hfails⟩ := hended
  exact discoverWithin_of_no_plan (.error failure) hrun (dryRunOutput_eq_error_iff.2 hfails)

theorem Breaks.recordNested?_eq_none (h : stage.Breaks terms failure) (position : Position) :
    recordNested? position failure = none := by
  cases h <;> rfl

/-- A discovery fails because the driver is not found, or with what its dry run came to, or as that
of a driver below does, if that is not kept. -/
theorem discover_succ_error (h : stage.discover terms (depth + 1) = (.error failure, after)) :
    (stage.world.host.findExecutable? stage.call.executable stage.call.workingDir terms.extraEnv =
        none ∧ failure = .error (.toolchainNotFound stage.call.executable none)) ∨
      (∃ program result, DryRunEnds terms stage.world (stage.kind, stage.call) program result ∧
        DryRunFails terms program.toString
          (Shell.quote (dryRunWords (stage.kind, stage.call) program)) result failure) ∨
      ∃ lower, stage.Nests terms lower ∧ lower.discover terms depth = (.error failure, after) ∧
        recordNested? lower.position failure = none := by
  obtain ⟨hfind, hfailure, -⟩ | ⟨program, hfind, hjobs | ⟨planned, mid, hjobs, hcommands⟩⟩ :=
    discoverWith_error h
  · exact .inl ⟨hfind, hfailure⟩
  · have hfails := discoverJobs_eq_error_iff.1 (congrArg Prod.fst hjobs)
    exact .inr (.inl ⟨program, _, ⟨hfind, rfl⟩, hfails⟩)
  · obtain ⟨front, job, rest, commands, last, kind, rfl, hfront, hrole, hnested, hnone⟩ :=
      jobCommands_error_cases hcommands
    rw [Nat.zero_add] at hnested hnone
    exact .inr (.inr ⟨_, .job ⟨program, hfind, hjobs⟩ hfront hrole, hnested, hnone⟩)

theorem discover_succ_unkept (h : stage.discover terms (depth + 1) = (.error failure, after))
    (hnone : recordNested? stage.position failure = none) :
    stage.Breaks terms failure ∨
      ∃ lower, stage.Nests terms lower ∧ lower.discover terms depth = (.error failure, after) := by
  obtain ⟨-, rfl⟩ | ⟨program, result, hrun, hfails⟩ | ⟨lower, hnests, hlower, -⟩ :=
    discover_succ_error h
  · cases hnone
  · exact .inl (.of_fails hrun hfails hnone)
  · exact .inr ⟨lower, hnests, hlower⟩

/-- What a driver below fails with, and is not kept, is what the driver fails with, unless the depth
is too small for a driver before. -/
theorem Nests.error (h : upper.Nests terms lower)
    (hlower : (lower.discover terms depth).1 = .error failure)
    (hnone : ∀ position, recordNested? position failure = none) :
    (upper.discover terms (depth + 1)).1 = .error failure ∨
      (upper.discover terms (depth + 1)).1 = .error .tooDeep := by
  obtain @⟨front, rest, job, mid, world, enough, commands, kind, hplans, hdone, hrole⟩ := h
  rw [hplans.discover_succ]
  -- the jobs before are done at this depth too, or it is too small for them
  obtain ⟨after, hfront⟩ | hfront := jobCommands_of_done hdone depth
  · simp only [jobCommands_append, hfront]
    exact .inr rfl
  · have hjob := jobCommand_of_error (n := 0 + front.length) hrole
      (by rw [Nat.zero_add]; exact Prod.fst_eq_iff.1 hlower) (hnone _)
    rw [jobCommands_error_at hfront.symm hjob]
    exact .inl rfl

theorem Nests.tooDeep (h : upper.Nests terms lower)
    (hlower : (lower.discover terms depth).1 = .error .tooDeep) :
    (upper.discover terms (depth + 1)).1 = .error .tooDeep :=
  or_self_iff.1 (h.error hlower fun _ => rfl)

theorem Plans.exists_depth_jobCommand {front rest : List Job} {job : Job} {world : World}
    {commands : List Command} (hplans : upper.Plans terms (front ++ job :: rest) mid)
    (hends : ∀ lower, upper.Nests terms lower → lower.Ends terms)
    (hdone : jobCommands (discoverWithin terms depth) upper.position upper.call 0 front mid =
      (.ok commands, world)) :
    ∃ enough, (jobCommand (discoverWithin terms enough) upper.position upper.call front.length job
      world).1 ≠ .error .tooDeep := by
  by_cases hdriver : ∃ kind, job.role = .driver kind
  · obtain ⟨kind, hrole⟩ := hdriver
    obtain ⟨enough, hlower⟩ := hends _ (.job hplans hdone hrole)
    refine ⟨enough, fun hjob => hlower ?_⟩
    obtain ⟨found, hfound, hnested, -⟩ := jobCommand_error (Prod.fst_eq_iff.1 hjob)
    cases hrole.symm.trans hfound
    exact congrArg Prod.fst hnested
  · refine ⟨0, fun hjob => hdriver ?_⟩
    obtain ⟨kind, hrole, -⟩ := jobCommand_error (Prod.fst_eq_iff.1 hjob)
    exact ⟨kind, hrole⟩

theorem Plans.exists_depth (hplans : upper.Plans terms planned mid)
    (hends : ∀ lower, upper.Nests terms lower → lower.Ends terms) (front rest : List Job)
    (hfront : planned = front ++ rest) :
    ∃ depth, (jobCommands (discoverWithin terms depth) upper.position upper.call 0 front mid).1 ≠
      .error .tooDeep := by
  induction front using List.reverseRecOn generalizing rest with
  | nil => exact ⟨0, nofun⟩
  | append_singleton front job ih =>
    rw [List.append_assoc, List.singleton_append] at hfront
    obtain ⟨enough, hdone⟩ := ih (job :: rest) hfront
    cases hresult : jobCommands (discoverWithin terms enough) upper.position upper.call 0 front
        mid with
    | mk result world =>
      cases result with
      | error failure =>
        rw [hresult] at hdone
        refine ⟨enough, ?_⟩
        simp only [jobCommands_append, hresult]
        exact hdone
      | ok commands =>
        obtain ⟨depth, hjob⟩ := Plans.exists_depth_jobCommand (hfront ▸ hplans) hends hresult
        -- at the greater of the two depths nothing has changed
        have hfirst := (sameDeeper_jobCommands (deeper_discoverWithin terms
          (Nat.le_max_left enough depth)) upper.position upper.call 0 front mid).eq
          (by rw [hresult]; exact nofun)
        have hnext := (sameDeeper_jobCommand (deeper_discoverWithin terms
          (Nat.le_max_right enough depth)) upper.position upper.call front.length job world).eq hjob
        rw [hresult] at hfirst
        refine ⟨max enough depth, fun h => hjob ?_⟩
        simp only [jobCommands_append, hfirst, Nat.zero_add, jobCommands_cons, jobCommands_nil,
          hnext] at h
        generalize jobCommand (discoverWithin terms depth) upper.position upper.call front.length
          job world = made at h ⊢
        obtain ⟨failure | command, last⟩ := made <;> cases h
        rfl

/-! ## All levels -/

theorem ends_of_nested (h : ∀ lower, stage.Nests terms lower → lower.Ends terms) :
    stage.Ends terms := by
  by_cases hplans : ∃ planned mid, stage.Plans terms planned mid
  · obtain ⟨planned, mid, hplans⟩ := hplans
    obtain ⟨depth, hdone⟩ := hplans.exists_depth h planned [] (List.append_nil _).symm
    refine ⟨depth + 1, fun htooDeep => hdone ?_⟩
    rw [hplans.discover_succ] at htooDeep
    exact map_eq_error_iff.1 htooDeep
  · refine ⟨1, fun htooDeep => ?_⟩
    obtain hbreaks | ⟨lower, hnests, -⟩ := discover_succ_unkept (Prod.fst_eq_iff.1 htooDeep) rfl
    · cases hbreaks
    · cases hnests with
      | job plans => exact hplans ⟨_, _, plans⟩

/-- A discovery ends exactly if each descent from driver to driver does. -/
theorem ends_iff_acc :
    stage.Ends terms ↔ Acc (fun lower upper => upper.Nests terms lower) stage := by
  constructor
  · rintro ⟨depth, h⟩
    induction depth generalizing stage with
    | zero => exact absurd rfl h
    | succ depth ih => exact .intro _ fun lower hnests => ih fun hlower => h (hnests.tooDeep hlower)
  · intro h
    induction h with
    | intro stage _ ih => exact ends_of_nested ih

theorem not_ends_iff : ¬stage.Ends terms ↔
    ∃ chain : Nat → Stage, chain 0 = stage ∧ ∀ n, (chain n).Nests terms (chain (n + 1)) := by
  rw [ends_iff_acc, not_acc_iff_exists_descending_chain]

/-- What holds of a stage, and of one that each such stage comes to, is enough for its discovery not
to end. -/
theorem not_ends_of_invariant {motive : Stage → Prop}
    (step : ∀ upper, motive upper → ∃ lower, upper.Nests terms lower ∧ motive lower)
    (h : motive stage) : ¬stage.Ends terms := by
  rw [ends_iff_acc]
  intro hacc
  induction hacc with
  | intro stage _ ih =>
    obtain ⟨lower, hnests, hlower⟩ := step stage h
    exact ih lower hnests hlower

/-! ## Attempts -/

theorem Plans.attempts_lt (h : stage.Plans terms planned mid) :
    stage.world.attempts.length < mid.attempts.length := by
  obtain ⟨program, -, hjobs⟩ := h
  have houtput := discoverJobs_fst terms stage.kind stage.call program stage.world
  have hafter := discoverJobs_unlogged terms stage.world stage.kind program.toString stage.call.args
    stage.call.workingDir
  rw [hjobs] at houtput hafter
  obtain ⟨output, houtput, hsome⟩ := map_eq_ok_iff.1 houtput.symm
  obtain ⟨text, rfl, -⟩ := Option.map_eq_some_iff.1 hsome
  have hfinished := dryRunOutput_eq_ok_some_iff.1 houtput
  obtain hcancelled | ⟨huncancelled, -⟩ := run_fst_cases terms program.toString
    (stage.kind.dryRunArgs stage.call.args) stage.call.workingDir stage.world
  · cases hcancelled.symm.trans hfinished
  · obtain ⟨new, hnew, hstarts⟩ := run_attempts terms
      (program.toString :: stage.kind.dryRunArgs stage.call.args) stage.call.workingDir stage.world
    rw [huncancelled, if_neg (by decide)] at hstarts
    obtain ⟨-, -, -, hattempts⟩ := World.unlogged_eq_iff.1 hafter
    obtain ⟨attempt, rfl, -⟩ := List.map_eq_singleton_iff.1 hstarts
    rw [hattempts, hnew, List.length_append]
    exact Nat.lt_succ_self _

theorem Nests.attempts_lt (h : upper.Nests terms lower) :
    upper.world.attempts.length < lower.world.attempts.length := by
  obtain @⟨front, rest, job, mid, world, enough, commands, kind, hplans, hdone, -⟩ := h
  have hcontinues : Continues terms mid
      (jobCommands (discoverWithin terms enough) upper.position upper.call 0 front mid).2 :=
    continues_jobCommands (continuing_discoverWithin terms enough) 0 front
  rw [hdone] at hcontinues
  obtain ⟨new, hnew, -⟩ := hcontinues.attempts
  refine Nat.lt_of_lt_of_le hplans.attempts_lt ?_
  rw [hnew, List.length_append]
  exact Nat.le_add_right ..

/-- Where the depth is too small, a process has been attempted at each level. -/
theorem attempts_of_tooDeep (h : stage.discover terms depth = (.error .tooDeep, after)) :
    stage.world.attempts.length + depth ≤ after.attempts.length := by
  induction depth generalizing stage with
  | zero =>
    cases h
    exact Nat.le_refl _
  | succ depth ih =>
    obtain hbreaks | ⟨lower, hnests, hlower⟩ := discover_succ_unkept h rfl
    · cases hbreaks
    · have hfirst := hnests.attempts_lt
      have hothers := ih hlower
      omega

/-! ## What is not kept -/

/-- A discovery that fails with what is not kept has come to a driver whose dry run breaks, unless
the depth is too small. -/
theorem exists_breaks (h : stage.discover terms depth = (.error failure, after))
    (hnone : recordNested? stage.position failure = none) :
    failure = .tooDeep ∨
      ∃ lower, Relation.ReflTransGen (Nests terms) stage lower ∧ lower.Breaks terms failure := by
  induction depth generalizing stage with
  | zero =>
    cases h
    exact .inl rfl
  | succ depth ih =>
    obtain hbreaks | ⟨lower, hnests, hlower⟩ := discover_succ_unkept h hnone
    · exact .inr ⟨stage, .refl, hbreaks⟩
    · obtain htooDeep | ⟨last, hreach, hbreaks⟩ := ih hlower (recordNested?_eq_none hnone)
      · exact .inl htooDeep
      · exact .inr ⟨last, .head hnests hreach, hbreaks⟩

theorem Breaks.discover_of_reach (h : lower.Breaks terms failure)
    (hreach : Relation.ReflTransGen (Nests terms) upper lower) (depth : Nat) :
    (upper.discover terms depth).1 = .error failure ∨
      (upper.discover terms depth).1 = .error .tooDeep := by
  induction hreach using Relation.ReflTransGen.head_induction_on generalizing depth with
  | refl =>
    cases depth with
    | zero => exact .inr rfl
    | succ depth => exact .inl (h.discover_succ depth)
  | head hnests _ ih =>
    cases depth with
    | zero => exact .inr rfl
    | succ depth =>
      obtain hfails | htooDeep := ih depth
      · exact hnests.error hfails h.recordNested?_eq_none
      · exact .inr (hnests.tooDeep htooDeep)

theorem exists_hangs (h : stage.discover terms depth = (.error .endless, after)) :
    ∃ lower, Relation.ReflTransGen (Nests terms) stage lower ∧ lower.Hangs terms := by
  obtain htooDeep | ⟨lower, hreach, hbreaks⟩ := exists_breaks h rfl
  · cases htooDeep
  · cases hbreaks with
    | endless hhangs => exact ⟨lower, hreach, hhangs⟩

/-! ## The host -/

theorem Nests.host_unstarted (h : upper.Nests terms lower) :
    lower.world.host.unstarted = upper.world.host.unstarted := by
  obtain @⟨front, rest, job, mid, world, enough, commands, kind, hplans, hdone, -⟩ := h
  obtain ⟨program, hfind, hjobs⟩ := hplans
  have hmid := dryRuns_discoverJobs upper.kind hfind hjobs
  have hfront := dryRuns_jobCommands (onlyDryRuns_discoverWithin terms enough) hdone
  exact hfront.host_unstarted.trans hmid.host_unstarted

theorem host_unstarted_of_reach (h : Relation.ReflTransGen (Nests terms) upper lower) :
    lower.world.host.unstarted = upper.world.host.unstarted := by
  induction h with
  | refl => rfl
  | tail _ hnests ih => exact hnests.host_unstarted.trans ih

theorem not_hangs (h : stage.world.host.ProcessesEnd terms) : ¬stage.Hangs terms := by
  intro hhangs
  obtain ⟨program, -, hrun⟩ := Option.map_eq_some_iff.1 hhangs
  exact run_ne_endless h hrun

end Stage

end CompilerCommands
