import CompilerCommands.Discovery.Create

/-!
# How discovery ends

Each step of discovery ends in one of a few ways, and each way says what the steps inside it came
to.
-/

namespace CompilerCommands

variable {terms : Terms} {discover : Discoverer} {here position : Position} {driver : Driver}
  {call parent : Invocation} {n : Nat} {state : DiscoveryState} {jobs : List Command}
  {world after : World} {failure : Failure}

/-! ## Jobs -/

theorem nestedDriver_ok {command : Command}
    (h : nestedDriver discover position driver call world = (.ok command, after)) :
    (∃ found, discover position driver call {} [] world = (.ok found, after) ∧
      command = .driver driver call found.state found.jobs) ∨
    ∃ failure last recorded, discover position driver call {} [] world = (.error failure, last) ∧
      recordNested? position failure = some recorded ∧
      command = .driver driver call { error := some recorded } [] ∧
      after = last.logUndiscovered call.rawLine recorded.error := by
  unfold nestedDriver at h
  split at h
  · next found last hf =>
    cases h
    exact .inl ⟨found, hf, rfl⟩
  · next failure last hf =>
    split at h
    · next recorded hr =>
      cases h
      exact .inr ⟨failure, last, recorded, hf, hr, rfl, rfl⟩
    · cases h

theorem nestedDriver_error
    (h : nestedDriver discover position driver call world = (.error failure, after)) :
    discover position driver call {} [] world = (.error failure, after) ∧
      recordNested? position failure = none := by
  unfold nestedDriver at h
  split at h
  · cases h
  · next hf =>
    split at h
    · cases h
    · next hr =>
      cases h
      exact ⟨hf, hr⟩

section

-- what a job is takes a search among names, which would be begun here for no use
attribute [local irreducible] Job.role

theorem jobCommands_nil (discover : Discoverer) (here : Position) (parent : Invocation) (n : Nat)
    (world : World) : jobCommands discover here parent n [] world = (.ok [], world) := rfl

theorem jobCommands_cons (discover : Discoverer) (here : Position) (parent : Invocation) (n : Nat)
    (job : Job) (rest : List Job) (world : World) :
    jobCommands discover here parent n (job :: rest) world =
      match jobCommand discover here parent n job world with
      | (.error failure, after) => (.error failure, after)
      | (.ok first, after) =>
        match jobCommands discover here parent (n + 1) rest after with
        | (.error failure, last) => (.error failure, last)
        | (.ok others, last) => (.ok (first :: others), last) := rfl

end

theorem jobCommands_cons_ok {job : Job} {rest : List Job} {commands : List Command}
    (h : jobCommands discover here parent n (job :: rest) world = (.ok commands, after)) :
    ∃ first mid others, jobCommand discover here parent n job world = (.ok first, mid) ∧
      jobCommands discover here parent (n + 1) rest mid = (.ok others, after) ∧
      commands = first :: others := by
  rw [jobCommands_cons] at h
  split at h
  · cases h
  · next first mid hfirst =>
    split at h
    · cases h
    · next others last hothers =>
      cases h
      exact ⟨first, mid, others, hfirst, hothers, rfl⟩

theorem jobCommands_cons_error {job : Job} {rest : List Job}
    (h : jobCommands discover here parent n (job :: rest) world = (.error failure, after)) :
    jobCommand discover here parent n job world = (.error failure, after) ∨
    ∃ first mid, jobCommand discover here parent n job world = (.ok first, mid) ∧
      jobCommands discover here parent (n + 1) rest mid = (.error failure, after) := by
  rw [jobCommands_cons] at h
  split at h
  · next hfirst =>
    cases h
    exact .inl hfirst
  · next first mid hfirst =>
    split at h
    · next hothers =>
      cases h
      exact .inr ⟨first, mid, hfirst, hothers⟩
    · cases h

theorem jobCommand_of_error {job : Job} (hrole : job.role = .driver driver)
    (h : discover (here ++ [n]) driver (parent.ofJob here job) {} [] world =
      (.error failure, after))
    (hnone : recordNested? (here ++ [n]) failure = none) :
    jobCommand discover here parent n job world = (.error failure, after) := by
  unfold jobCommand nestedDriver
  simp only [hrole, h, hnone]

theorem jobCommand_error {job : Job}
    (h : jobCommand discover here parent n job world = (.error failure, after)) :
    ∃ driver, job.role = .driver driver ∧
      discover (here ++ [n]) driver (parent.ofJob here job) {} [] world = (.error failure, after) ∧
      recordNested? (here ++ [n]) failure = none := by
  unfold jobCommand at h
  simp only at h
  split at h
  · next driver hrole =>
    obtain ⟨hnested, hnone⟩ := nestedDriver_error h
    exact ⟨driver, hrole, hnested, hnone⟩
  · cases h
  · cases h

/-- Jobs fail as the first of them does that fails, a driver, when those before it are done. -/
theorem jobCommands_error_cases {planned : List Job}
    (h : jobCommands discover here parent n planned world = (.error failure, after)) :
    ∃ front job rest commands mid driver, planned = front ++ job :: rest ∧
      jobCommands discover here parent n front world = (.ok commands, mid) ∧
      job.role = .driver driver ∧
      discover (here ++ [n + front.length]) driver (parent.ofJob here job) {} [] mid =
        (.error failure, after) ∧
      recordNested? (here ++ [n + front.length]) failure = none := by
  induction planned generalizing n world with
  | nil => cases h
  | cons job rest ih =>
    obtain hfirst | ⟨first, mid, hfirst, hothers⟩ := jobCommands_cons_error h
    · obtain ⟨driver, hrole, hnested, hnone⟩ := jobCommand_error hfirst
      exact ⟨[], job, rest, [], world, driver, rfl, rfl, hrole, hnested, hnone⟩
    · obtain ⟨front, failed, others, commands, last, driver, rfl, hfront, hrole, hnested, hnone⟩ :=
        ih hothers
      have hdone : jobCommands discover here parent n (job :: front) world =
          (.ok (first :: commands), last) := by
        rw [jobCommands_cons, hfirst]
        simp only [hfront]
      rw [Nat.add_assoc, Nat.add_comm 1] at hnested hnone
      exact ⟨job :: front, failed, others, first :: commands, last, driver, rfl, hdone, hrole,
        hnested, hnone⟩

theorem jobCommands_append (discover : Discoverer) (here : Position) (parent : Invocation) (n : Nat)
    (front rest : List Job) (world : World) :
    jobCommands discover here parent n (front ++ rest) world =
      match jobCommands discover here parent n front world with
      | (.error failure, after) => (.error failure, after)
      | (.ok commands, mid) =>
        match jobCommands discover here parent (n + front.length) rest mid with
        | (.error failure, after) => (.error failure, after)
        | (.ok others, after) => (.ok (commands ++ others), after) := by
  induction front generalizing n world with
  | nil =>
    simp only [jobCommands_nil, List.nil_append, List.length_nil, Nat.add_zero]
    generalize jobCommands discover here parent n rest world = others
    obtain ⟨failure | commands, after⟩ := others <;> rfl
  | cons job front ih =>
    rw [List.cons_append, jobCommands_cons, jobCommands_cons]
    generalize jobCommand discover here parent n job world = first
    obtain ⟨failure | command, mid⟩ := first
    · rfl
    · simp only [ih, List.length_cons, Nat.add_assoc, Nat.add_comm 1]
      generalize jobCommands discover here parent (n + 1) front mid = done
      obtain ⟨failure | commands, last⟩ := done
      · rfl
      · simp only
        generalize jobCommands discover here parent (n + (front.length + 1)) rest last = others
        obtain ⟨failure | others, after⟩ := others <;> rfl

theorem jobCommands_error_at {front rest : List Job} {job : Job} {commands : List Command}
    {mid : World} (hfront : jobCommands discover here parent n front world = (.ok commands, mid))
    (hjob : jobCommand discover here parent (n + front.length) job mid = (.error failure, after)) :
    jobCommands discover here parent n (front ++ job :: rest) world = (.error failure, after) := by
  simp only [jobCommands_append, hfront, jobCommands_cons, hjob]

theorem recordNested?_eq_none {position other : Position} {failure : Failure}
    (h : recordNested? position failure = none) : recordNested? other failure = none := by
  unfold recordNested? at h ⊢
  split at h
  · cases h
  · cases h
  · rfl

/-- An error with which the jobs' commands fail is none that is kept with a driver: those that are
have been kept with the jobs. -/
theorem jobCommands_error {planned : List Job} (other : Position)
    (h : jobCommands discover here parent n planned world = (.error failure, after)) :
    recordNested? other failure = none := by
  obtain ⟨front, job, rest, commands, mid, driver, -, -, -, -, hnone⟩ := jobCommands_error_cases h
  exact recordNested?_eq_none hnone

/-! ## Drivers -/

theorem discoverWith_ok {found : Discovered}
    (h : discoverWith discover terms here driver call state jobs world = (.ok found, after)) :
    ∃ program,
      world.host.findExecutable? call.executable call.workingDir terms.extraEnv = some program ∧
      ((discoverJobs terms (.driver driver) program.toString call.args call.workingDir world =
          (.ok none, after) ∧ found = ⟨{ state with cancelled := true }, jobs⟩) ∨
        ∃ planned mid, discoverJobs terms (.driver driver) program.toString call.args
            call.workingDir world = (.ok (some planned), mid) ∧
          jobCommands discover here call 0 planned mid = (.ok found.jobs, after) ∧
          found.state = state) := by
  unfold discoverWith at h
  split at h
  · cases h
  · next program hfind =>
    refine ⟨program, hfind, ?_⟩
    split at h
    · cases h
    · next last hjobs =>
      cases h
      exact .inl ⟨hjobs, rfl⟩
    · next planned mid hjobs =>
      split at h
      · cases h
      · next commands last hcommands =>
        cases h
        exact .inr ⟨planned, mid, hjobs, hcommands, rfl⟩

theorem discoverWith_error
    (h : discoverWith discover terms here driver call state jobs world = (.error failure, after)) :
    (world.host.findExecutable? call.executable call.workingDir terms.extraEnv = none ∧
      failure = .error (.toolchainNotFound call.executable none) ∧ after = world) ∨
    ∃ program,
      world.host.findExecutable? call.executable call.workingDir terms.extraEnv = some program ∧
      (discoverJobs terms (.driver driver) program.toString call.args call.workingDir world =
          (.error failure, after) ∨
        ∃ planned mid, discoverJobs terms (.driver driver) program.toString call.args
            call.workingDir world = (.ok (some planned), mid) ∧
          jobCommands discover here call 0 planned mid = (.error failure, after)) := by
  unfold discoverWith at h
  split at h
  · next hfind =>
    cases h
    exact .inl ⟨hfind, rfl, rfl⟩
  · next program hfind =>
    refine .inr ⟨program, hfind, ?_⟩
    split at h
    · next hjobs =>
      cases h
      exact .inl hjobs
    · cases h
    · next planned mid hjobs =>
      split at h
      · next hcommands =>
        cases h
        exact .inr ⟨planned, mid, hjobs, hcommands⟩
      · cases h

/-! ## Lines -/

theorem settle_ok {strict : Bool} {command : Command} {result : Except Failure Discovered × World}
    (h : settle strict driver call result = (.ok command, after)) :
    (∃ found, result = (.ok found, after) ∧
      command = .driver driver call found.state found.jobs) ∨
    ∃ cause last, result = (.error (.error (.dryRunFailed cause)), last) ∧ strict = false ∧
      command = .driver driver call { error := some ⟨.dryRunFailed cause, some []⟩ } [] ∧
      after = last.logUndiscovered call.rawLine (.dryRunFailed cause) := by
  unfold settle at h
  split at h
  · next found last =>
    cases h
    exact .inl ⟨found, rfl, rfl⟩
  · next cause last =>
    split at h
    · cases h
    · next hstrict =>
      cases h
      exact .inr ⟨cause, last, rfl, Bool.not_eq_true _ ▸ hstrict, rfl, rfl⟩
  · cases h

/-- A command comes from rustc's line, or from a driver's whose jobs have been discovered, or whose
error has been kept. -/
theorem createWithin_ok {depth : Nat} {strict : Bool} {line : String} {dir : Path}
    {command : Command}
    (h : createWithin depth terms strict line dir world = (.ok command, after)) :
    ∃ call : Invocation, tokenize line = .ok call.words ∧ call.rawLine = line ∧
      call.workingDir = dir ∧ call.parent = none ∧
      ((Toolchain.classify call.executable = some .rustc ∧ command = .ofRustc call ∧
          after = world) ∨
        ∃ driver, Toolchain.classify call.executable = some (.driver driver) ∧
          settle strict driver call
            (discoverWithin terms depth [] driver call {} [] world) = (.ok command, after)) := by
  unfold createWithin at h
  split at h
  · cases h
  · next words hwords =>
    unfold createFromWords at h
    split at h
    · cases h
    · next executable args =>
      refine ⟨⟨line, executable, args, dir, none, .linux⟩, hwords, rfl, rfl, rfl, ?_⟩
      simp only at h
      split at h
      · cases h
      · next hkind =>
        cases h
        exact .inl ⟨hkind, rfl, rfl⟩
      · next driver hkind => exact .inr ⟨driver, hkind, h⟩

theorem invocation_createWithin {depth : Nat} {strict : Bool} {line : String} {dir : Path}
    {command : Command}
    (h : createWithin depth terms strict line dir world = (.ok command, after)) :
    tokenize line = .ok command.call.words ∧ command.call.rawLine = line ∧
      command.call.workingDir = dir ∧ command.call.parent = none := by
  obtain ⟨call, hwords, hline, hdir, hparent, hkind⟩ := createWithin_ok h
  have hcall : command.call = call := by
    obtain ⟨-, rfl, -⟩ | ⟨driver, -, hsettle⟩ := hkind
    · rfl
    · obtain ⟨found, -, rfl⟩ | ⟨cause, last, -, -, rfl, -⟩ := settle_ok hsettle <;> rfl
  rw [hcall]
  exact ⟨hwords, hline, hdir, hparent⟩

theorem createWithin_of_no_driver {line : String}
    (h : ∀ executable args, tokenize line = .ok (executable :: args) →
      ∀ driver, Toolchain.classify executable ≠ some (.driver driver))
    (depth : Nat) (terms : Terms) (strict : Bool) (dir : Path) (world : World) :
    (createWithin depth terms strict line dir world).2 = world := by
  unfold createWithin
  split
  · rfl
  · next words hwords =>
    unfold createFromWords
    split
    · rfl
    · next executable args =>
      simp only
      split
      · rfl
      · rfl
      · next driver hkind => exact absurd hkind (h executable args hwords driver)

theorem createWithin_of_driver {line executable : String} {args : List String}
    (h : tokenize line = .ok (executable :: args))
    (hkind : Toolchain.classify executable = some (.driver driver))
    (depth : Nat) (terms : Terms) (strict : Bool) (dir : Path) (world : World) :
    createWithin depth terms strict line dir world =
      settle strict driver ⟨line, executable, args, dir, none, .linux⟩
        (discoverWithin terms depth [] driver ⟨line, executable, args, dir, none, .linux⟩ {} []
          world) := by
  rw [createWithin, h]
  unfold createFromWords
  simp only [hkind]

end CompilerCommands
