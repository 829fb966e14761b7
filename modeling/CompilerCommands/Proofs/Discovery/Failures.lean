import CompilerCommands.Proofs.Discovery.Provenance
import CompilerCommands.Proofs.Execution.Results

/-!
# How a creation fails

A creation fails because of its line, or because of the dry run of its root. What goes wrong below
the root is kept with the driver where it goes wrong, and the jobs after it are still looked at.
-/

namespace CompilerCommands

/-- The call has no end of its own: a process is waited for that nothing ends, or drivers are nested
deeper than the stack of calls holds. -/
def Failure.unended : Failure → Bool
  | endless | tooDeep => true
  | _ => false

/-- A dry run was not started: its program was not found, or the system refused it. -/
def NotStarted (outcome : Option RunResult) : Prop :=
  outcome = none ∨ ∃ error, outcome = some (.refused error)

/-- A dry run was started and failed: with another status than 0, or by taking too long. -/
def Failed (outcome : Option RunResult) : Prop :=
  (∃ output status, outcome = some (.finished output status) ∧ status ≠ 0) ∨
    ∃ limit, outcome = some (.timedOut limit)

section

variable {terms : Terms} {discover : Discoverer} {here position : Position} {kind : Driver}
  {call parent : Invocation} {n : Nat} {world after : World} {failure : Failure}
  {node : Driver × Invocation} {state : DiscoveryState} {planned : List Job}

/-! ## What is kept -/

theorem Leaves.dryRunResult?_missing
    (h : world.host.findExecutable? node.2.executable node.2.workingDir terms.extraEnv = none) :
    world.dryRunResult? terms node = none := by
  rw [World.dryRunResult?, h, Option.map_none]

theorem Leaves.notFound_iff (h : Leaves terms world here node state planned)
    (hhost : world.host.NeverTimesOut) :
    (∃ name reason, state.error = some ⟨.toolchainNotFound name reason, none⟩) ↔
      NotStarted (world.dryRunResult? terms node) := by
  unfold NotStarted
  cases h with
  | missing h => simp [Leaves.dryRunResult?_missing h]
  | refused h ht => simp [h.dryRunResult?]
  | limited h ht hl =>
    rw [run_refused hhost h.ends] at ht
    cases ht
  | exited h hs => simp [h.dryRunResult?]
  | timedOut h => simp [h.dryRunResult?]
  | cancelled h => simp [h.dryRunResult?]
  | planned h => simp [h.dryRunResult?]

theorem Leaves.failed_iff (h : Leaves terms world here node state planned)
    (hhost : world.host.NeverTimesOut) :
    (∃ cause, state.error = some ⟨.dryRunFailed cause, some here⟩) ↔
      Failed (world.dryRunResult? terms node) := by
  unfold Failed
  cases h with
  | missing h => simp [Leaves.dryRunResult?_missing h]
  | refused h ht => simp [h.dryRunResult?]
  | limited h ht hl =>
    rw [run_refused hhost h.ends] at ht
    cases ht
  | exited h hs => simp [h.dryRunResult?, hs]
  | timedOut h => simp [h.dryRunResult?]
  | cancelled h => simp [h.dryRunResult?]
  | planned h => simp [h.dryRunResult?]

/-! ## What is not kept -/

theorem DryRuns.host_unstarted {dir : Path} {nodes : List (Driver × Invocation)}
    (h : DryRuns terms dir world nodes after) : after.host.unstarted = world.host.unstarted := by
  have hfold : ∀ (nodes : List (Driver × Invocation)) (world : World),
      (nodes.foldl (World.dryRun terms) world).host.unstarted = world.host.unstarted := by
    intro nodes
    induction nodes with
    | nil => exact fun _ => rfl
    | cons node rest ih => exact fun world => (ih _).trans (dryRun_host world node)
  rw [host_eq_of_unlogged_eq h.unlogged, hfold]

/-- What a dry run fails with is kept with its driver, unless its call is broken off or does not
end. -/
theorem DryRunFails.recorded_or_unended {executable line : String} {result : RunResult}
    (h : DryRunFails terms executable line result failure) (haborted : result ≠ .aborted)
    (hrefused : ∀ error, result = .refused error → error.isTimeout = false) :
    failure.unended = true ∨ ∃ recorded, recordNested? here failure = some recorded := by
  cases h with
  | exited | timedOut | refused | limited => exact .inr ⟨_, rfl⟩
  | limitless htimeout => cases htimeout.symm.trans (hrefused _ rfl)
  | aborted => exact absurd rfl haborted
  | endless => exact .inl rfl

/-- All that a discoverer fails with is kept with the driver, or its call does not end. -/
def Discoverer.KeepsFailures (discover : Discoverer) : Prop :=
  ∀ {here kind call state jobs world failure after}, world.host.NeverTimesOut →
    discover here kind call state jobs world = (.error failure, after) →
    failure.unended = true ∨ ∃ recorded, recordNested? here failure = some recorded

theorem jobCommands_unended (hd : discover.KeepsFailures) (hruns : discover.OnlyDryRuns terms)
    {jobs : List Job} (hhost : world.host.NeverTimesOut)
    (h : jobCommands discover here parent n jobs world = (.error failure, after)) :
    failure.unended = true := by
  obtain ⟨front, job, rest, commands, mid, kind, rfl, hfront, -, hnested, hnone⟩ :=
    jobCommands_error_cases h
  have hmid := (dryRuns_jobCommands hruns hfront).host_unstarted
  obtain hunended | ⟨recorded, hrecorded⟩ := hd (hhost.of_unstarted_eq hmid) hnested
  · exact hunended
  · rw [hnone] at hrecorded
    cases hrecorded

theorem keepsFailures_discoverWith (habort : terms.abortAt = none)
    (hd : discover.KeepsFailures) (hruns : discover.OnlyDryRuns terms) :
    (discoverWith discover terms).KeepsFailures := by
  intro here kind call state jobs world failure after hhost h
  obtain ⟨-, rfl, -⟩ | ⟨program, hfind, hjobs | ⟨planned, mid, hjobs, hcommands⟩⟩ :=
    discoverWith_error h
  · exact .inr ⟨_, rfl⟩
  · have hfails := discoverJobs_eq_error_iff.1 (congrArg Prod.fst hjobs)
    exact hfails.recorded_or_unended (run_ne_aborted habort) fun _ => run_refused hhost
  · have hmid := (dryRuns_discoverJobs kind hfind hjobs).host_unstarted
    exact .inl (jobCommands_unended hd hruns (hhost.of_unstarted_eq hmid) hcommands)

end

theorem keepsFailures_discoverWithin {terms : Terms} (habort : terms.abortAt = none) (depth : Nat) :
    (discoverWithin terms depth).KeepsFailures := by
  induction depth with
  | zero =>
    intro here kind call state jobs world failure after _ h
    cases h
    exact .inl rfl
  | succ depth ih =>
    exact keepsFailures_discoverWith habort ih (onlyDryRuns_discoverWithin terms depth)

/-! ## The root -/

section

variable {terms : Terms} {depth : Nat} {kind : Driver} {call : Invocation} {world after : World}

theorem state_discoverWithin {here : Position} {found : Discovered}
    (h : discoverWithin terms depth here kind call {} [] world = (.ok found, after)) :
    found.state.error = none := by
  cases depth with
  | zero => cases h
  | succ depth =>
    obtain ⟨program, -, ⟨-, rfl⟩ | ⟨planned, mid, -, -, hstate⟩⟩ := discoverWith_ok h
    · rfl
    · rw [hstate]

theorem recordNested?_eq_some {here : Position} {failure : Failure} {recorded : RecordedError}
    (h : recordNested? here failure = some recorded) :
    (∃ cause, failure = .error (.dryRunFailed cause) ∧
      recorded = ⟨.dryRunFailed cause, some here⟩) ∨
    ∃ name reason, failure = .error (.toolchainNotFound name reason) ∧
      recorded = ⟨.toolchainNotFound name reason, none⟩ := by
  unfold recordNested? at h
  split at h
  · cases h
    exact .inl ⟨_, rfl, rfl⟩
  · cases h
    exact .inr ⟨_, _, rfl, rfl⟩
  · cases h

theorem settle_unended_iff {strict : Bool} {failure : Failure} (hunended : failure.unended = true)
    {result : Except Failure Discovered × World} :
    settle strict kind call result = (.error failure, after) ↔
      result = (.error failure, after) := by
  constructor
  · intro h
    unfold settle at h
    split at h
    · cases h
    · split at h <;> cases h
      cases hunended
    · cases h
      rfl
  · rintro rfl
    cases failure <;> first | rfl | cases hunended

/-- How the creation from a driver's line ends, unless it is not followed to an end, is decided by
the dry run of that driver. -/
theorem settle_cases (strict : Bool) (habort : terms.abortAt = none)
    (hhost : world.host.NeverTimesOut) :
    let result := (settle strict kind call (discoverWithin terms depth [] kind call {} [] world)).1
    let outcome := world.dryRunResult? terms (kind, call)
    (∃ failure, result = .error failure ∧ failure.unended = true) ∨
    (NotStarted outcome ∧ ¬Failed outcome ∧
      ∃ name reason, result = .error (.error (.toolchainNotFound name reason))) ∨
    (Failed outcome ∧ ¬NotStarted outcome ∧
      if strict = true then ∃ cause command, result = .error (.undiscovered cause command)
      else ∃ command, result = .ok command) ∨
    (¬NotStarted outcome ∧ ¬Failed outcome ∧ ∃ command, result = .ok command) := by
  intro result outcome
  cases hdiscover : discoverWithin terms depth [] kind call {} [] world with
  | mk discovered after =>
    have hresult : result = (settle strict kind call (discovered, after)).1 := by
      rw [← hdiscover]
    cases discovered with
    | ok found =>
      obtain ⟨planned, hleaves, -⟩ := (leavesAll_discoverWithin terms depth).found hdiscover
        (world, ⟨[], kind, call, found.state, found.jobs⟩) (List.mem_cons_self ..)
      have herror : found.state.error = none := state_discoverWithin hdiscover
      refine .inr (.inr (.inr ⟨fun h => ?_, fun h => ?_, ⟨_, hresult⟩⟩))
      · obtain ⟨name, reason, hkept⟩ := (hleaves.notFound_iff hhost).2 h
        cases herror.symm.trans hkept
      · obtain ⟨cause, hkept⟩ := (hleaves.failed_iff hhost).2 h
        cases herror.symm.trans hkept
    | error failure =>
      obtain hunended | ⟨recorded, hrecorded⟩ :=
        keepsFailures_discoverWithin habort depth hhost hdiscover
      · refine .inl ⟨failure, ?_, hunended⟩
        rw [hresult, (settle_unended_iff hunended).2 rfl]
      · have hleaves := (leavesAll_discoverWithin terms depth).kept hdiscover hrecorded
        have hnotFound := hleaves.notFound_iff hhost
        have hfailed := hleaves.failed_iff hhost
        obtain ⟨cause, rfl, rfl⟩ | ⟨name, reason, rfl, rfl⟩ := recordNested?_eq_some hrecorded
        · refine .inr (.inr (.inl ⟨hfailed.1 ⟨cause, rfl⟩, fun h => ?_, ?_⟩))
          · obtain ⟨name, reason, hkept⟩ := hnotFound.2 h
            cases hkept
          · rw [hresult, settle]
            cases strict with
            | false => exact ⟨_, rfl⟩
            | true => exact ⟨cause, _, rfl⟩
        · refine .inr (.inl ⟨hnotFound.1 ⟨name, reason, rfl⟩, fun h => ?_, name, reason, hresult⟩)
          obtain ⟨cause, hkept⟩ := hfailed.2 h
          cases hkept

end

/-! ## Lines -/

section

variable {terms : Terms} {depth : Nat} {strict : Bool} {line executable : String}
  {args : List String} {dir : Path} {world : World}

theorem createWithin_of_error {error : CommandError} (h : tokenize line = .error error) :
    ∃ cause, (createWithin depth terms strict line dir world).1 =
      .error (.error (.malformedLine cause)) := by
  have herror : ∃ cause, error = .malformedLine cause := by
    unfold tokenize at h
    split at h
    · cases h
    · cases h
      exact ⟨_, rfl⟩
  obtain ⟨cause, rfl⟩ := herror
  exact ⟨cause, by rw [createWithin, h]⟩

theorem createWithin_of_nil (h : tokenize line = .ok []) :
    (createWithin depth terms strict line dir world).1 =
      .error (.error (.malformedLine .empty)) := by
  rw [createWithin, h]
  rfl

theorem createWithin_of_unknown (h : tokenize line = .ok (executable :: args))
    (hkind : Toolchain.classify executable = none) :
    (createWithin depth terms strict line dir world).1 =
      .error (.error (.unsupportedToolchain executable)) := by
  rw [createWithin, h]
  unfold createFromWords
  simp only [hkind]

theorem createWithin_of_rustc (h : tokenize line = .ok (executable :: args))
    (hkind : Toolchain.classify executable = some .rustc) :
    ∃ command, (createWithin depth terms strict line dir world).1 = .ok command := by
  rw [createWithin, h]
  unfold createFromWords
  simp only [hkind]
  exact ⟨_, rfl⟩

/-- The creation from a driver's line fails for what its own dry run came to, and for nothing else.
-/
theorem createWithin_driver_iff {kind : Driver} (habort : terms.abortAt = none)
    (hhost : world.host.NeverTimesOut)
    (hends : ∀ failure, (createWithin depth terms strict line dir world).1 = .error failure →
      failure.unended = false)
    (h : tokenize line = .ok (executable :: args))
    (hkind : Toolchain.classify executable = some (.driver kind)) :
    let result := (createWithin depth terms strict line dir world).1
    let outcome := world.dryRunResult? terms (kind, ⟨line, executable, args, dir, none, .linux⟩)
    ((∃ name reason, result = .error (.error (.toolchainNotFound name reason))) ↔
      NotStarted outcome) ∧
    ((∃ cause command, result = .error (.undiscovered cause command)) ↔
      strict = true ∧ Failed outcome) ∧
    ((∃ command, result = .ok command) ↔
      ¬NotStarted outcome ∧ ¬(strict = true ∧ Failed outcome)) := by
  rw [createWithin_of_driver h hkind] at hends ⊢
  intro result outcome
  obtain ⟨failure, hresult, hunended⟩ | ⟨hstarted, hfailed, name, reason, hresult⟩ |
      ⟨hfailed, hstarted, hresult⟩ | ⟨hstarted, hfailed, command, hresult⟩ :=
    settle_cases strict habort hhost
  · rw [hends failure hresult] at hunended
    cases hunended
  · have hresult : result = .error (.error (.toolchainNotFound name reason)) := hresult
    simp [hresult, hstarted, hfailed, outcome]
  · split at hresult
    · next hstrict =>
      obtain ⟨cause, command, hresult⟩ := hresult
      have hresult : result = .error (.undiscovered cause command) := hresult
      simp [hresult, hstarted, hfailed, hstrict, outcome]
    · next hstrict =>
      obtain ⟨command, hresult⟩ := hresult
      have hresult : result = .ok command := hresult
      simp [hresult, hstarted, hfailed, hstrict, outcome]
  · have hresult : result = .ok command := hresult
    simp [hresult, hstarted, hfailed, outcome]

theorem createWithin_cons_cases (habort : terms.abortAt = none) (hhost : world.host.NeverTimesOut)
    (hends : ∀ failure, (createWithin depth terms strict line dir world).1 = .error failure →
      failure.unended = false)
    (h : tokenize line = .ok (executable :: args)) :
    let result := (createWithin depth terms strict line dir world).1
    (Toolchain.classify executable = none ∧
      result = .error (.error (.unsupportedToolchain executable))) ∨
    (Toolchain.classify executable ≠ none ∧
      ((∃ command, result = .ok command) ∨
        (∃ name reason, result = .error (.error (.toolchainNotFound name reason))) ∨
        ∃ cause command, result = .error (.undiscovered cause command))) := by
  intro result
  cases hkind : Toolchain.classify executable with
  | none => exact .inl ⟨rfl, createWithin_of_unknown h hkind⟩
  | some toolchain =>
    refine .inr ⟨by simp, ?_⟩
    cases toolchain with
    | rustc => exact .inl (createWithin_of_rustc h hkind)
    | driver kind =>
      obtain ⟨hnotFound, hfailed, hok⟩ := createWithin_driver_iff habort hhost hends h hkind
      by_cases hstarted : NotStarted (world.dryRunResult? terms
          (kind, ⟨line, executable, args, dir, none, .linux⟩))
      · exact .inr (.inl (hnotFound.2 hstarted))
      · by_cases hstrict : strict = true ∧ Failed (world.dryRunResult? terms
            (kind, ⟨line, executable, args, dir, none, .linux⟩))
        · exact .inr (.inr (hfailed.2 hstrict))
        · exact .inl (hok.2 ⟨hstarted, hstrict⟩)

/-- A driver that is reached in `world` shows what its dry run came to: it keeps that the dry run
could not be started, or that it failed, or it has a command for each job that was printed. -/
structure Command.Node.Shows (terms : Terms) (world : World) (node : Command.Node) : Prop where
  notStarted : (∃ name reason, node.state.error = some ⟨.toolchainNotFound name reason, none⟩) ↔
    NotStarted (world.dryRunResult? terms node.run)
  failed : (∃ cause, node.state.error = some ⟨.dryRunFailed cause, some node.position⟩) ↔
    Failed (world.dryRunResult? terms node.run)
  jobs : ∀ output, world.dryRunResult? terms node.run = some (.finished output 0) →
    node.jobs.map (·.call.words) = (jobsOf (.driver node.kind) output).map Job.words

theorem shows_createWithin {after : World} {command : Command} (hhost : world.host.NeverTimesOut)
    (h : createWithin depth terms strict line dir world = (.ok command, after)) :
    ∀ visit ∈ visits terms world command.driverNodes, visit.2.Shows terms visit.1 := by
  intro visit hvisit
  have hmid : visit.1.host.NeverTimesOut := by
    refine visits_induction (motive := fun mid => mid.host.NeverTimesOut) hhost ?_ visit hvisit
    intro mid node hmid
    exact hmid.of_unstarted_eq (dryRun_host mid node)
  obtain ⟨planned, hleaves, hcalls⟩ := asLeft_createWithin h visit hvisit
  refine ⟨hleaves.notFound_iff hmid, hleaves.failed_iff hmid, fun output houtput => ?_⟩
  obtain ⟨program, hfind, hrun⟩ := Option.map_eq_some_iff.1 houtput
  rw [map_words_of_map_call hcalls, hleaves.planned_eq ⟨hfind, hrun⟩]
  rfl

end

/-- How a creation that is followed to its end fails, if the system does not refuse processes for
time-outs of its own and the call is not broken off: for a line that cannot be read or is empty;
else for an unknown toolchain; else, for a driver, because its own dry run could not be started;
else, if it is strict, because its own dry run failed; and for nothing else. A driver whose dry run
could not be started or failed keeps that, at any depth, and its siblings are all there. -/
theorem createWithin_failures (depth : Nat) (terms : Terms) (strict : Bool) (line : String)
    (dir : Path) (world : World) (habort : terms.abortAt = none)
    (hhost : world.host.NeverTimesOut)
    (hends : ∀ failure, (createWithin depth terms strict line dir world).1 = .error failure →
      failure.unended = false) :
    let result := (createWithin depth terms strict line dir world).1
    ((∃ cause, result = .error (.error (.malformedLine cause))) ↔
      (∃ error, tokenize line = .error error) ∨ tokenize line = .ok []) ∧
    (∀ executable args, tokenize line = .ok (executable :: args) →
      ((∃ name, result = .error (.error (.unsupportedToolchain name))) ↔
        Toolchain.classify executable = none) ∧
      (Toolchain.classify executable = some .rustc → ∃ command, result = .ok command) ∧
      ∀ kind, Toolchain.classify executable = some (.driver kind) →
        let outcome := world.dryRunResult? terms
          (kind, ⟨line, executable, args, dir, none, .linux⟩)
        ((∃ name reason, result = .error (.error (.toolchainNotFound name reason))) ↔
          NotStarted outcome) ∧
        ((∃ cause command, result = .error (.undiscovered cause command)) ↔
          strict = true ∧ Failed outcome) ∧
        ((∃ command, result = .ok command) ↔
          ¬NotStarted outcome ∧ ¬(strict = true ∧ Failed outcome))) ∧
    ∀ command, result = .ok command →
      ∀ visit ∈ visits terms world command.driverNodes, visit.2.Shows terms visit.1 := by
  intro result
  refine ⟨?_, fun executable args hwords => ⟨?_, fun hkind => createWithin_of_rustc hwords hkind,
    fun kind hkind => createWithin_driver_iff habort hhost hends hwords hkind⟩,
    fun command hcommand => shows_createWithin hhost (Prod.ext hcommand rfl)⟩
  · cases hwords : tokenize line with
    | error error => simpa using createWithin_of_error hwords
    | ok words =>
      cases words with
      | nil => simpa using ⟨_, createWithin_of_nil hwords⟩
      | cons executable args =>
        have hresult := createWithin_cons_cases habort hhost hends hwords
        obtain ⟨-, h⟩ | ⟨-, ⟨command, h⟩ | ⟨name, reason, h⟩ | ⟨cause, command, h⟩⟩ := hresult <;>
          simp [result, h]
  · have hresult := createWithin_cons_cases habort hhost hends hwords
    obtain ⟨hkind, h⟩ | ⟨hkind, ⟨command, h⟩ | ⟨name, reason, h⟩ | ⟨cause, command, h⟩⟩ :=
      hresult <;> simp [result, h, hkind]

theorem nvccWorld_neverTimesOut : nvccWorld.host.NeverTimesOut := by
  intro entry hentry error herror
  rcases List.mem_cons.1 hentry with rfl | hentry
  · cases List.mem_singleton.1 herror
  · obtain rfl := List.mem_singleton.1 hentry
    cases List.mem_singleton.1 herror

theorem createWithin_failures_nested :
    (∃ command, (createWithin 3 {} true "nvcc a.cu" (.ofString "/work") nvccWorld).1 =
        .ok command ∧
      ∀ visit ∈ visits {} nvccWorld command.driverNodes, visit.2.Shows {} visit.1) ∧
    ∃ name reason, (createWithin 3 {} true "clang a.c" (.ofString "/work") nvccWorld).1 =
      .error (.error (.toolchainNotFound name reason)) := by
  constructor
  · have hmade : (createWithin 3 {} true "nvcc a.cu" (.ofString "/work") nvccWorld).1.isOk =
        true := by
      decide +kernel
    obtain ⟨-, hlines, hshows⟩ := createWithin_failures 3 {} true "nvcc a.cu" (.ofString "/work")
      nvccWorld rfl nvccWorld_neverTimesOut (fun failure hfailure => by
        rw [hfailure] at hmade
        cases hmade)
    have houtcome : nvccWorld.dryRunResult? {} (.nvcc, ⟨"nvcc a.cu", "nvcc", ["a.cu"],
        .ofString "/work", none, .linux⟩) =
        some (.finished "#$ clang -c a.c\n#$ gcc -c b.c" 0) := by decide +kernel
    have hwords : tokenize "nvcc a.cu" = .ok ["nvcc", "a.cu"] :=
      eq_ok_of_toOption (by decide +kernel)
    obtain ⟨-, -, hok⟩ := (hlines "nvcc" ["a.cu"] hwords).2.2 .nvcc (by decide +kernel)
    obtain ⟨command, hcommand⟩ := hok.2 (by
      rw [houtcome]
      simp [NotStarted, Failed])
    exact ⟨command, hcommand, hshows command hcommand⟩
  · have hended : (match (createWithin 3 {} true "clang a.c" (.ofString "/work") nvccWorld).1 with
        | .error failure => failure.unended
        | .ok _ => false) = false := by
      decide +kernel
    obtain ⟨-, hlines, -⟩ := createWithin_failures 3 {} true "clang a.c" (.ofString "/work")
      nvccWorld rfl nvccWorld_neverTimesOut (fun failure hfailure => by
        rw [hfailure] at hended
        exact hended)
    have houtcome : nvccWorld.dryRunResult? {} (.clang, ⟨"clang a.c", "clang", ["a.c"],
        .ofString "/work", none, .linux⟩) = none := by decide +kernel
    have hwords : tokenize "clang a.c" = .ok ["clang", "a.c"] :=
      eq_ok_of_toOption (by decide +kernel)
    exact ((hlines "clang" ["a.c"] hwords).2.2 .clang (by decide +kernel)).1.2 (.inl houtcome)

end CompilerCommands
