import CompilerCommands.Execution.Run

/-!
# What running a process leaves alone

Running a process does not look at the log and does not write to it. Of the host it only changes how
often files have been started, and it makes one attempt, or none if the call has been cancelled.
-/

namespace CompilerCommands

/-! ## The log -/

def World.unlogged (world : World) : World := { world with records := [] }

@[simp] theorem World.unlogged_log (world : World) (level : LogLevel) (source : LogSource)
    (message : String) : (world.log level source message).unlogged = world.unlogged := rfl

theorem World.unlogged_eq_iff {a b : World} : a.unlogged = b.unlogged ↔
    a.host = b.host ∧ a.now = b.now ∧ a.cancelled = b.cancelled ∧ a.attempts = b.attempts := by
  cases a
  cases b
  simp [World.unlogged]

theorem awaitKilled_unlogged (terms : Terms) (behaviour : Behaviour) (result : RunResult)
    (world : World) :
    (awaitKilled terms behaviour result world).map id World.unlogged =
      awaitKilled terms behaviour result world.unlogged := by
  unfold awaitKilled
  -- the patience is a number that is better not computed
  generalize killPatience = patience
  have hnow : world.unlogged.now = world.now := rfl
  rw [hnow]
  split
  · cases terms.abortAt with
    | none => rfl
    | some t =>
      simp only
      split <;> rfl
  · rfl

theorem await_unlogged (terms : Terms) (behaviour : Behaviour) (world : World) :
    (await terms behaviour world).map id (Prod.map id World.unlogged) =
      await terms behaviour world.unlogged := by
  have hendings : endings terms world.unlogged behaviour = endings terms world behaviour := rfl
  unfold await
  rw [hendings]
  cases earliest? (endings terms world behaviour) with
  | none => rfl
  | some first =>
    obtain ⟨ending, time⟩ := first
    have hkilled := awaitKilled_unlogged terms behaviour ending.killedResult
      (world.advance terms time)
    cases ending <;> first | rfl | exact congrArg (fun x => (x.1, _, x.2)) hkilled

theorem spawn_unlogged (terms : Terms) (words : List String) (dir : Path) (world : World) :
    (spawn terms words dir world).map id World.unlogged =
      spawn terms words dir world.unlogged := by
  have henv : world.unlogged.childEnv terms = world.childEnv terms := rfl
  have hhost : world.unlogged.host = world.host := rfl
  unfold spawn
  simp only [henv, hhost]
  cases world.host.resolve? (words.headD "") dir (world.childEnv terms) with
  | none => rfl
  | some place =>
    have hstart : world.unlogged.start place =
        ((world.start place).1, (world.start place).2.unlogged) := rfl
    simp only [hstart]
    obtain ⟨launch, started⟩ := world.start place
    cases launch with
    | refused error => rfl
    | started behaviour =>
      exact congrArg (fun x => (x.1, x.2.2.attempted terms world.now words dir x.2.1))
        (await_unlogged terms behaviour started)

theorem run_unlogged (terms : Terms) (words : List String) (dir : Path) (world : World) :
    (run terms words dir world).map id World.unlogged = run terms words dir world.unlogged := by
  have hcancelled : world.unlogged.cancelled = world.cancelled := rfl
  unfold run
  rw [hcancelled]
  split
  · rfl
  · exact spawn_unlogged terms words dir world

theorem unlogged_run_of_eq {a b : World} (h : a.unlogged = b.unlogged) (terms : Terms)
    (words : List String) (dir : Path) :
    (run terms words dir a).2.unlogged = (run terms words dir b).2.unlogged := by
  have ha := congrArg Prod.snd (run_unlogged terms words dir a)
  have hb := congrArg Prod.snd (run_unlogged terms words dir b)
  rw [← h] at hb
  exact ha.trans hb.symm

/-! ## The clock -/

theorem awaitKilled_cases (terms : Terms) (behaviour : Behaviour) (result : RunResult)
    (world : World) :
    (awaitKilled terms behaviour result world).2 = world ∨
      ∃ time, world.now ≤ time ∧
        (awaitKilled terms behaviour result world).2 = world.advance terms time := by
  unfold awaitKilled
  generalize killPatience = patience
  split
  · right
    cases terms.abortAt with
    | none => exact ⟨_, Nat.le_add_right .., rfl⟩
    | some t =>
      by_cases h : t < world.now + patience ∧ result ≠ .aborted
      · exact ⟨max world.now t, Nat.le_max_left .., by simp only [if_pos h]⟩
      · exact ⟨world.now + patience, Nat.le_add_right .., by simp only [if_neg h]⟩
  · exact .inl rfl

/-- Waiting takes time, in which the call may be cancelled, and changes nothing else. -/
theorem await_snd (terms : Terms) (behaviour : Behaviour) (world : World) :
    ∃ now cancelled, (await terms behaviour world).2.2 =
      { world with now := now, cancelled := cancelled } := by
  unfold await
  split
  · exact ⟨_, _, rfl⟩
  · exact ⟨_, _, rfl⟩
  · next ending time _ _ =>
    simp only
    rcases awaitKilled_cases terms behaviour ending.killedResult (world.advance terms time) with
      h | ⟨later, -, h⟩ <;> rw [h] <;> exact ⟨_, _, rfl⟩

/-! ## The host and the attempts -/

/-- The host as if no file had been started. -/
def Host.unstarted (host : Host) : Host := { host with starts := [] }

structure Start where
  words : List String
  dir : Path
  env : Environment
  deriving DecidableEq, Repr

def Attempt.start (attempt : Attempt) : Start := ⟨attempt.words, attempt.dir, attempt.env⟩

/-- A process takes time, is one more start of a file, if there is one, and is one attempt. -/
theorem spawn_snd (terms : Terms) (words : List String) (dir : Path) (world : World) :
    ∃ host now cancelled killed, host.unstarted = world.host.unstarted ∧
      (spawn terms words dir world).2 =
        { world with
          host := host
          now := now
          cancelled := cancelled
          attempts :=
            world.attempts ++ [⟨world.now, words, dir, world.childEnv terms, killed⟩] } := by
  unfold spawn
  simp only
  cases world.host.resolve? (words.headD "") dir (world.childEnv terms) with
  | none => exact ⟨world.host, world.now, world.cancelled, false, rfl, rfl⟩
  | some place =>
    have hstart : (world.start place).2 = { world with host := world.host.countStart place } := rfl
    simp only
    generalize world.start place = launched at hstart
    obtain ⟨launch, started⟩ := launched
    obtain rfl : started = { world with host := world.host.countStart place } := hstart
    cases launch with
    | refused error =>
      exact ⟨world.host.countStart place, world.now, world.cancelled, false, rfl, rfl⟩
    | started behaviour =>
      obtain ⟨now, cancelled, h⟩ := await_snd terms behaviour
        { world with host := world.host.countStart place }
      refine ⟨world.host.countStart place, now, cancelled,
        (await terms behaviour { world with host := world.host.countStart place }).2.1, rfl, ?_⟩
      simp only [World.attempted, h]
      rfl

theorem run_host (terms : Terms) (words : List String) (dir : Path) (world : World) :
    (run terms words dir world).2.host.unstarted = world.host.unstarted := by
  unfold run
  split
  · rfl
  · obtain ⟨host, now, cancelled, killed, hhost, h⟩ := spawn_snd terms words dir world
    rw [h]
    exact hhost

theorem run_attempts (terms : Terms) (words : List String) (dir : Path) (world : World) :
    ∃ new, (run terms words dir world).2.attempts = world.attempts ++ new ∧
      new.map Attempt.start =
        if terms.cancellable && world.cancelled then []
        else [⟨words, dir, world.childEnv terms⟩] := by
  unfold run
  split
  · exact ⟨[], (List.append_nil _).symm, rfl⟩
  · obtain ⟨host, now, cancelled, killed, -, h⟩ := spawn_snd terms words dir world
    rw [h]
    exact ⟨_, rfl, rfl⟩

end CompilerCommands
