import CompilerCommands.Proofs.Discovery.Provenance
import CompilerCommands.Proofs.Execution.Cancellation

/-!
# Discovery that is cancelled

A discovery goes on over the jobs that are left when its call has been cancelled, but it starts
nothing for them. The driver that was waited for at that time, and the drivers that come after it,
are left without jobs.
-/

namespace CompilerCommands

/-! ## All that is attempted -/

/-- A call stops for its cancellation. -/
structure Stops (terms : Terms) (world after : World) : Prop where
  /-- If it has been cancelled before, it attempts nothing. -/
  before : terms.cancellable = true → world.cancelled = true → after.attempts = world.attempts
  /-- It attempts nothing from the time on at which it is cancelled. A call that begins when that
  time has come is cancelled in its first wait, so there is at most that one attempt. -/
  during : ∀ t ∈ terms.cancelTime?, ∃ new, after.attempts = world.attempts ++ new ∧
    (world.now < t → ∀ attempt ∈ new, attempt.time < t) ∧ (t ≤ world.now → new.length ≤ 1)

def AttemptsOnce (world after : World) : Prop :=
  ∃ new, after.attempts = world.attempts ++ new ∧ new.length ≤ 1

/-- Whatever comes of a discovery, the call goes on during it. -/
def Discoverer.Continuing (terms : Terms) (discover : Discoverer) : Prop :=
  ∀ here kind call state jobs world,
    Continues terms world (discover here kind call state jobs world).2

section

variable {terms : Terms} {discover : Discoverer} {here : Position} {parent call : Invocation}
  {kind : Driver} {state : DiscoveryState} {jobs : List Command} {world mid after last : World}

theorem Continues.log (h : Continues terms world after) (level : LogLevel) (source : LogSource)
    (message : String) : Continues terms world (after.log level source message) :=
  h.of_unlogged_eq (World.unlogged_log after level source message).symm

theorem continues_discoverJobs (terms : Terms) (kind : Toolchain) (executable : String)
    (args : List String) (dir : Path) (world : World) :
    Continues terms world (discoverJobs terms kind executable args dir world).2 := by
  unfold discoverJobs
  split
  · exact .refl terms world
  · next words _ =>
    have hlogged := (Continues.refl terms world).log .debug .dryRun
      ("Dry run: " ++ Shell.quote words)
    have hrun := continues_run terms words dir
      (world.log .debug .dryRun ("Dry run: " ++ Shell.quote words))
    exact (hlogged.trans hrun).of_unlogged_eq (readJobs_unlogged ..).symm

theorem continues_jobCommand (hd : discover.Continuing terms) (n : Nat) (job : Job) :
    Continues terms world (jobCommand discover here parent n job world).2 := by
  unfold jobCommand
  simp only
  split
  · next nested _ =>
    have hnested := hd (here ++ [n]) nested (parent.ofJob here job) {} [] world
    unfold nestedDriver
    split
    · next found last hf =>
      rw [hf] at hnested
      exact hnested
    · next failure last hf =>
      rw [hf] at hnested
      split
      · exact hnested.log _ _ _
      · exact hnested
  · exact .refl terms world
  · exact .refl terms world

theorem continues_jobCommands (hd : discover.Continuing terms) (n : Nat) (planned : List Job) :
    Continues terms world (jobCommands discover here parent n planned world).2 := by
  induction planned generalizing n world with
  | nil => exact .refl terms world
  | cons job rest ih =>
    have hfirst : Continues terms world (jobCommand discover here parent n job world).2 :=
      continues_jobCommand hd n job
    rw [jobCommands_cons]
    split
    · next failure mid hf =>
      rw [hf] at hfirst
      exact hfirst
    · next first mid hf =>
      rw [hf] at hfirst
      have hothers : Continues terms mid (jobCommands discover here parent (n + 1) rest mid).2 :=
        ih (n + 1)
      split
      · next hrest =>
        rw [hrest] at hothers
        exact hfirst.trans hothers
      · next hrest =>
        rw [hrest] at hothers
        exact hfirst.trans hothers

theorem continuing_discoverWith (hd : discover.Continuing terms) :
    (discoverWith discover terms).Continuing terms := by
  intro here kind call state jobs world
  unfold discoverWith
  split
  · exact .refl terms world
  · next program _ =>
    have hjobs := continues_discoverJobs terms (.driver kind) program.toString call.args
      call.workingDir world
    split
    · next h =>
      rw [h] at hjobs
      exact hjobs
    · next h =>
      rw [h] at hjobs
      exact hjobs
    · next planned mid h =>
      rw [h] at hjobs
      have hcommands : Continues terms mid (jobCommands discover here call 0 planned mid).2 :=
        continues_jobCommands hd 0 planned
      split
      · next hc =>
        rw [hc] at hcommands
        exact hjobs.trans hcommands
      · next hc =>
        rw [hc] at hcommands
        exact hjobs.trans hcommands

end

theorem continuing_discoverWithin (terms : Terms) (depth : Nat) :
    (discoverWithin terms depth).Continuing terms := by
  induction depth with
  | zero => exact fun _ _ _ _ _ world => .refl terms world
  | succ depth ih => exact continuing_discoverWith ih

/-! ## The first attempt -/

section

variable {terms : Terms} {discover : Discoverer} {here : Position} {call : Invocation}
  {kind : Driver} {state : DiscoveryState} {jobs : List Command} {world mid after last : World}

theorem AttemptsOnce.refl (world : World) : AttemptsOnce world world :=
  ⟨[], (List.append_nil _).symm, Nat.zero_le _⟩

theorem AttemptsOnce.of_unlogged_eq (h : AttemptsOnce world after)
    (heq : after.unlogged = last.unlogged) : AttemptsOnce world last := by
  obtain ⟨-, -, -, hattempts⟩ := World.unlogged_eq_iff.1 heq
  obtain ⟨new, hnew, hlength⟩ := h
  exact ⟨new, hattempts.symm.trans hnew, hlength⟩

theorem attemptsOnce_run (terms : Terms) (words : List String) (dir : Path) (world : World) :
    AttemptsOnce world (run terms words dir world).2 := by
  obtain ⟨new, hnew, hstarts⟩ := run_attempts terms words dir world
  refine ⟨new, hnew, ?_⟩
  have hlength := congrArg List.length hstarts
  rw [List.length_map] at hlength
  rw [hlength]
  split <;> simp

theorem attemptsOnce_discoverJobs (terms : Terms) (kind : Driver) (executable : String)
    (args : List String) (dir : Path) (world : World) :
    AttemptsOnce world (discoverJobs terms (.driver kind) executable args dir world).2 :=
  (attemptsOnce_run terms (executable :: kind.dryRunArgs args) dir world).of_unlogged_eq
    (discoverJobs_unlogged ..).symm

theorem World.Noticed.of_unlogged_eq (h : after.Noticed terms)
    (heq : after.unlogged = last.unlogged) : last.Noticed terms := by
  obtain ⟨-, hnow, hcancelled, -⟩ := World.unlogged_eq_iff.1 heq
  intro t ht htime
  rw [← hnow] at htime
  rw [← hcancelled]
  exact h t ht htime

theorem DryRunEnds.noticed {node : Driver × Invocation} {program : Path} {result : RunResult}
    (h : DryRunEnds terms world node program result)
    (hresult : result = .cancelled ∨ ∃ output, result = .finished output 0) :
    (world.dryRun terms node).Noticed terms := by
  have hends := h.ends
  rw [World.dryRun_of_some world node h.found]
  simp only [dryRunWords] at hends
  rcases hresult with rfl | ⟨output, rfl⟩
  · exact noticed_run (by simp [hends]) (by simp [hends])
  · exact noticed_run (by simp [hends]) (by simp [hends])

theorem noticed_discoverJobs {program : Path} {planned : Option (List Job)}
    (hfind : world.host.findExecutable? call.executable call.workingDir terms.extraEnv =
      some program)
    (h : discoverJobs terms (.driver kind) program.toString call.args call.workingDir world =
      (.ok planned, mid)) : mid.Noticed terms := by
  have houtput := discoverJobs_fst terms kind call program world
  rw [h] at houtput
  obtain ⟨output, houtput, -⟩ := map_eq_ok_iff.1 houtput.symm
  have hended : DryRunEnds terms world (kind, call) program _ := ⟨hfind, rfl⟩
  have hmid := dryRuns_discoverJobs kind hfind h
  refine (hended.noticed ?_).of_unlogged_eq hmid.unlogged.symm
  cases output with
  | none => exact .inl (dryRunOutput_eq_ok_none_iff.1 houtput)
  | some text => exact .inr ⟨text, dryRunOutput_eq_ok_some_iff.1 houtput⟩

/-- A discovery that begins when the time to cancel it has come knows that after its first wait. -/
theorem attemptsOnce_discoverWith (hd : discover.Continuing terms) {t : Ticks}
    (ht : t ∈ terms.cancelTime?) (htime : t ≤ world.now) :
    AttemptsOnce world (discoverWith discover terms here kind call state jobs world).2 := by
  unfold discoverWith
  split
  · exact .refl world
  · next program hfind =>
    have hjobs := continues_discoverJobs terms (.driver kind) program.toString call.args
      call.workingDir world
    have honce := attemptsOnce_discoverJobs terms kind program.toString call.args
      call.workingDir world
    split
    · next h =>
      rw [h] at honce
      exact honce
    · next h =>
      rw [h] at honce
      exact honce
    · next planned mid h =>
      rw [h] at honce hjobs
      have hcancelled : mid.cancelled = true :=
        noticed_discoverJobs hfind h t ht (Nat.le_trans htime hjobs.now_le)
      have hcommands : Continues terms mid (jobCommands discover here call 0 planned mid).2 :=
        continues_jobCommands hd 0 planned
      -- so the jobs attempt nothing
      obtain ⟨others, hothers, hnone, -⟩ := hcommands.attempts
      obtain rfl : others = [] := hnone (cancellable_of_mem_cancelTime? ht) hcancelled
      obtain ⟨new, hnew, hlength⟩ := honce
      refine ⟨new, ?_, hlength⟩
      split
      · next hc =>
        rw [hc, List.append_nil] at hothers
        exact hothers.trans hnew
      · next hc =>
        rw [hc, List.append_nil] at hothers
        exact hothers.trans hnew

theorem attemptsOnce_discoverWithin (depth : Nat) {t : Ticks} (ht : t ∈ terms.cancelTime?)
    (htime : t ≤ world.now) :
    AttemptsOnce world (discoverWithin terms depth here kind call state jobs world).2 := by
  cases depth with
  | zero => exact .refl world
  | succ depth => exact attemptsOnce_discoverWith (continuing_discoverWithin terms depth) ht htime

/-! ## Calls -/

theorem Continues.stops (h : Continues terms world after)
    (honce : ∀ t ∈ terms.cancelTime?, t ≤ world.now → AttemptsOnce world after) :
    Stops terms world after := by
  obtain ⟨new, hnew, hnone, htimes⟩ := h.attempts
  constructor
  · intro hable hcancelled
    rw [hnew, hnone hable hcancelled, List.append_nil]
  · intro t ht
    by_cases htime : t ≤ world.now
    · obtain ⟨first, hfirst, hlength⟩ := honce t ht htime
      exact ⟨first, hfirst, fun hlt => absurd htime (Nat.not_le.2 hlt), fun _ => hlength⟩
    · have hnoticed : world.Noticed terms := by
        intro s hs hsnow
        obtain rfl : s = t := Option.mem_unique hs ht
        exact absurd hsnow htime
      exact ⟨new, hnew, fun _ attempt hattempt => htimes hnoticed attempt hattempt t ht,
        fun hle => absurd hle htime⟩

theorem stops_discoverWithin (terms : Terms) (depth : Nat) (here : Position) (kind : Driver)
    (call : Invocation) (state : DiscoveryState) (jobs : List Command) (world : World) :
    Stops terms world (discoverWithin terms depth here kind call state jobs world).2 :=
  (continuing_discoverWithin terms depth here kind call state jobs world).stops fun _ ht htime =>
    attemptsOnce_discoverWithin depth ht htime

theorem Stops.refl (terms : Terms) (world : World) : Stops terms world world :=
  (Continues.refl terms world).stops fun _ _ _ => .refl world

theorem Stops.of_unlogged_eq (h : Stops terms world after)
    (heq : after.unlogged = last.unlogged) : Stops terms world last := by
  obtain ⟨-, -, -, hattempts⟩ := World.unlogged_eq_iff.1 heq
  obtain ⟨hbefore, hduring⟩ := h
  rw [hattempts] at hbefore hduring
  exact ⟨hbefore, hduring⟩

end

section

variable {terms : Terms} {depth : Nat} {strict : Bool} {line : String} {dir : Path}
  {world after : World} {command : Command}

theorem unlogged_settle (strict : Bool) (kind : Driver) (call : Invocation)
    (result : Except Failure Discovered × World) :
    (settle strict kind call result).2.unlogged = result.2.unlogged := by
  unfold settle
  split
  · rfl
  · split <;> rfl
  · rfl

theorem createWithin_snd_cases (depth : Nat) (terms : Terms) (strict : Bool) (line : String)
    (dir : Path) (world : World) :
    (createWithin depth terms strict line dir world).2 = world ∨
    ∃ kind call, (createWithin depth terms strict line dir world).2.unlogged =
      (discoverWithin terms depth [] kind call {} [] world).2.unlogged := by
  by_cases h : ∃ executable args kind, tokenize line = .ok (executable :: args) ∧
      Toolchain.classify executable = some (.driver kind)
  · obtain ⟨executable, args, kind, hwords, hkind⟩ := h
    rw [createWithin_of_driver hwords hkind]
    exact .inr ⟨kind, _, unlogged_settle ..⟩
  · refine .inl (createWithin_of_no_driver ?_ depth terms strict dir world)
    intro executable args hwords kind hkind
    exact h ⟨executable, args, kind, hwords, hkind⟩

theorem continues_createWithin (depth : Nat) (terms : Terms) (strict : Bool) (line : String)
    (dir : Path) (world : World) :
    Continues terms world (createWithin depth terms strict line dir world).2 := by
  obtain h | ⟨kind, call, h⟩ := createWithin_snd_cases depth terms strict line dir world
  · rw [h]
    exact .refl terms world
  · exact (continuing_discoverWithin terms depth [] kind call {} [] world).of_unlogged_eq h.symm

theorem stops_createWithin (depth : Nat) (terms : Terms) (strict : Bool) (line : String)
    (dir : Path) (world : World) :
    Stops terms world (createWithin depth terms strict line dir world).2 := by
  obtain h | ⟨kind, call, h⟩ := createWithin_snd_cases depth terms strict line dir world
  · rw [h]
    exact .refl terms world
  · exact (stops_discoverWithin terms depth [] kind call {} [] world).of_unlogged_eq h.symm

theorem rediscoverWithin_eq_some {result : Except Failure Command}
    (h : command.rediscoverWithin depth terms world = some (result, after)) :
    ∃ kind call state jobs,
      after = (discoverWithin terms depth [] kind call state jobs world).2 := by
  cases command with
  | job tool call => cases h
  | rustc call flags => cases h
  | driver kind call state jobs =>
    refine ⟨kind, call, state, jobs, ?_⟩
    simp only [Command.rediscoverWithin] at h
    split at h
    · next found last hf =>
      rw [hf]
      cases h
      rfl
    · next failure last hf =>
      rw [hf]
      cases h
      rfl

theorem continues_rediscoverWithin {result : Except Failure Command}
    (h : command.rediscoverWithin depth terms world = some (result, after)) :
    Continues terms world after := by
  obtain ⟨kind, call, state, jobs, rfl⟩ := rediscoverWithin_eq_some h
  exact continuing_discoverWithin terms depth [] kind call state jobs world

theorem stops_rediscoverWithin {result : Except Failure Command}
    (h : command.rediscoverWithin depth terms world = some (result, after)) :
    Stops terms world after := by
  obtain ⟨kind, call, state, jobs, rfl⟩ := rediscoverWithin_eq_some h
  exact stops_discoverWithin terms depth [] kind call state jobs world

end

/-! ## What is left of the tree -/

/-- The dry run of a driver that is reached in `world` is a process of that behaviour, which is
still waited for at `time`. -/
structure DryRunsUntil (terms : Terms) (world : World) (node : Driver × Invocation) (program : Path)
    (behaviour : Behaviour) (time : Ticks) : Prop where
  found : world.host.findExecutable? node.2.executable node.2.workingDir terms.extraEnv =
    some program
  runs : RunsUntil terms program.toString node.2.workingDir world behaviour time

/-- A driver that is reached in `world` shows that its call is cancelled. -/
structure Command.Node.Stopped (terms : Terms) (world after : World) (node : Command.Node) :
    Prop where
  /-- If its dry run is waited for when the call is cancelled, it is left without jobs, and the
  process is killed, unless it is gone just then. -/
  waiting : ∀ t ∈ terms.cancelTime?, ∀ program behaviour,
    DryRunsUntil terms world node.run program behaviour (max world.now t) →
    node.state.cancelled = true ∧ node.jobs = [] ∧
      ⟨world.now, dryRunWords node.run program, node.call.workingDir, world.childEnv terms,
        !behaviour.escapesKill⟩ ∈ after.attempts
  /-- If the call has been cancelled, it is left without jobs. -/
  later : terms.cancellable = true → world.cancelled = true →
    node.jobs = [] ∧ (node.state.cancelled = true ∨
      ∃ name reason, node.state.error = some ⟨.toolchainNotFound name reason, none⟩)

section

variable {terms : Terms} {here : Position} {node : Driver × Invocation} {planned : List Job}
  {state : DiscoveryState} {world after : World}

theorem Leaves.missing_or_ends (h : Leaves terms world here node state planned) :
    (∃ name, state.error = some ⟨.toolchainNotFound name none, none⟩ ∧ planned = []) ∨
      ∃ program result, DryRunEnds terms world node program result := by
  cases h with
  | missing => exact .inl ⟨_, rfl, rfl⟩
  | refused h => exact .inr ⟨_, _, h⟩
  | limited h => exact .inr ⟨_, _, h⟩
  | exited h => exact .inr ⟨_, _, h⟩
  | timedOut h => exact .inr ⟨_, _, h⟩
  | cancelled h => exact .inr ⟨_, _, h⟩
  | planned h => exact .inr ⟨_, _, h⟩

theorem Leaves.ne_aborted {program : Path} {result : RunResult}
    (h : Leaves terms world here node state planned)
    (hrun : DryRunEnds terms world node program result) : result ≠ .aborted := by
  obtain ⟨rfl, -⟩ | ⟨output, rfl, -⟩ | ⟨-, haborted, -⟩ := h.result_cases hrun
  · nofun
  · nofun
  · exact haborted

theorem Leaves.of_cancelled {program : Path} (h : Leaves terms world here node state planned)
    (hrun : DryRunEnds terms world node program .cancelled) :
    state.cancelled = true ∧ planned = [] := by
  obtain ⟨-, hstate, hplanned⟩ | ⟨output, hresult, -⟩ | ⟨hresult, -⟩ := h.result_cases hrun
  · exact ⟨hstate, hplanned⟩
  · cases hresult
  · exact absurd rfl hresult

theorem Leaves.of_call_cancelled (h : Leaves terms world here node state planned)
    (hable : terms.cancellable = true) (hcancelled : world.cancelled = true) :
    planned = [] ∧ (state.cancelled = true ∨
      ∃ name reason, state.error = some ⟨.toolchainNotFound name reason, none⟩) := by
  obtain ⟨name, herror, hplanned⟩ | ⟨program, result, hrun⟩ := h.missing_or_ends
  · exact ⟨hplanned, .inr ⟨name, none, herror⟩⟩
  · have hskipped : DryRunEnds terms world node program .cancelled :=
      ⟨hrun.found, by rw [run_of_cancelled hable hcancelled]⟩
    obtain ⟨hstate, hplanned⟩ := h.of_cancelled hskipped
    exact ⟨hplanned, .inl hstate⟩

theorem continues_dryRun (terms : Terms) (world : World) (node : Driver × Invocation) :
    Continues terms world (world.dryRun terms node) := by
  unfold World.dryRun
  split
  · exact .refl terms world
  · exact continues_run terms _ _ world

theorem continues_dryRuns (terms : Terms) (world : World) (nodes : List (Driver × Invocation)) :
    Continues terms world (nodes.foldl (World.dryRun terms) world) := by
  induction nodes generalizing world with
  | nil => exact .refl terms world
  | cons node rest ih => exact (continues_dryRun terms world node).trans (ih _)

theorem attempts_of_mem_visits {nodes : List Command.Node} {visit : World × Command.Node}
    (h : visit ∈ visits terms world nodes) :
    (visit.1.dryRun terms visit.2.run).attempts ⊆
      ((nodes.map Command.Node.run).foldl (World.dryRun terms) world).attempts := by
  induction nodes generalizing world with
  | nil => cases h
  | cons node rest ih =>
    rw [List.map_cons, List.foldl_cons]
    rcases List.mem_cons.1 h with rfl | h
    · obtain ⟨new, hnew, -⟩ := (continues_dryRuns terms (world.dryRun terms node.run)
        (rest.map Command.Node.run)).attempts
      rw [hnew]
      exact List.subset_append_left ..
    · exact ih h

theorem AsLeft.stopped {nodes : List Command.Node} (h : AsLeft terms world nodes)
    (hafter : after.unlogged =
      ((nodes.map Command.Node.run).foldl (World.dryRun terms) world).unlogged) :
    ∀ visit ∈ visits terms world nodes, visit.2.Stopped terms visit.1 after := by
  intro visit hvisit
  obtain ⟨planned, hleaves, hcalls⟩ := h visit hvisit
  constructor
  · intro t ht program behaviour hwait
    have hended : DryRunEnds terms visit.1 visit.2.run program _ := ⟨hwait.found, rfl⟩
    obtain ⟨hresult, hattempts⟩ := hwait.runs.run_cancelled ht (hleaves.ne_aborted hended)
    rw [dryRunWords, hresult] at hended
    obtain ⟨hstate, rfl⟩ := hleaves.of_cancelled hended
    refine ⟨hstate, List.map_eq_nil_iff.1 hcalls, ?_⟩
    obtain ⟨-, -, -, hall⟩ := World.unlogged_eq_iff.1 hafter
    rw [hall]
    refine attempts_of_mem_visits hvisit ?_
    rw [World.dryRun_of_some visit.1 visit.2.run hwait.found, hattempts]
    exact List.mem_append_right _ (List.mem_singleton.2 rfl)
  · intro hable hcancelled
    obtain ⟨rfl, hstate⟩ := hleaves.of_call_cancelled hable hcancelled
    exact ⟨List.map_eq_nil_iff.1 hcalls, hstate⟩

end

section

variable {terms : Terms} {depth : Nat} {strict : Bool} {line : String} {dir : Path}
  {world after : World} {command : Command}

theorem stopped_createWithin
    (h : createWithin depth terms strict line dir world = (.ok command, after)) :
    ∀ visit ∈ visits terms world command.driverNodes, visit.2.Stopped terms visit.1 after := by
  refine (asLeft_createWithin h).stopped ?_
  rw [Command.map_run_driverNodes]
  exact (dryRuns_createWithin h).unlogged

/-- When a driver below the root is reached, the call knows whether it is cancelled. -/
theorem noticed_of_mem_visits_tail
    (h : createWithin depth terms strict line dir world = (.ok command, after)) :
    ∀ visit ∈ (visits terms world command.driverNodes).tail, visit.1.Noticed terms := by
  have hleft := asLeft_createWithin h
  cases command with
  | job tool call => exact fun _ hvisit => nomatch hvisit
  | rustc call flags => exact fun _ hvisit => nomatch hvisit
  | driver kind call state jobs =>
    have hnodes : (Command.driver kind call state jobs).driverNodes =
        ⟨[], kind, call, state, jobs⟩ :: Command.driverNodesOf [] 0 jobs :=
      Command.filterMap_node?_driver [] kind call state jobs
    rw [hnodes] at hleft ⊢
    obtain ⟨planned, hleaves, hcalls⟩ := hleft _ (List.mem_cons_self ..)
    by_cases hrun : ∃ program output,
        DryRunEnds terms world (kind, call) program (.finished output 0)
    · -- the dry run of the root has been waited for
      obtain ⟨program, output, hended⟩ := hrun
      have hroot : (world.dryRun terms (kind, call)).Noticed terms :=
        hended.noticed (.inr ⟨output, rfl⟩)
      exact visits_induction hroot fun mid node hmid =>
        (continues_dryRun terms mid node).noticed (.inl hmid)
    · have hplanned : planned = [] :=
        hleaves.planned_eq_nil fun program output hended => hrun ⟨program, output, hended⟩
      rw [hplanned] at hcalls
      obtain rfl : jobs = [] := List.map_eq_nil_iff.1 hcalls
      exact fun _ hvisit => nomatch hvisit

end

end CompilerCommands
