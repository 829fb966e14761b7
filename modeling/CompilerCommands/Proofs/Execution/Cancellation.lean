import CompilerCommands.Proofs.Execution.Results

/-!
# Cancellation

A call that has been cancelled stays cancelled and starts nothing more. When the time to cancel it
comes during the wait for a process, the call knows it as soon as the wait is over, and the process
is killed.
-/

namespace CompilerCommands

/-- If the time to cancel the call has come, the call knows. -/
def World.Noticed (world : World) (terms : Terms) : Prop :=
  ∀ t ∈ terms.cancelTime?, t ≤ world.now → world.cancelled = true

/-- Time goes on from `world` to `after`. A call that is cancelled stays so, and when time has
passed it knows whether it is. -/
structure Elapses (terms : Terms) (world after : World) : Prop where
  now_le : world.now ≤ after.now
  cancelled : world.cancelled = true → after.cancelled = true
  noticed : world.Noticed terms ∨ world.now < after.now → after.Noticed terms

/-- The call goes on from `world` to `after`: it attempts nothing if it has been cancelled, and
nothing from the time of its cancellation on if it knows that time to have come. -/
structure Continues (terms : Terms) (world after : World) : Prop extends
    Elapses terms world after where
  attempts : ∃ new, after.attempts = world.attempts ++ new ∧
    (terms.cancellable = true → world.cancelled = true → new = []) ∧
    (world.Noticed terms → ∀ attempt ∈ new, ∀ t ∈ terms.cancelTime?, attempt.time < t)

section

variable {terms : Terms} {world mid after : World} {words : List String} {dir : Path}
  {behaviour : Behaviour}

theorem cancellable_of_mem_cancelTime? {t : Ticks} (h : t ∈ terms.cancelTime?) :
    terms.cancellable = true := by
  unfold Terms.cancelTime? at h
  split at h
  · assumption
  · cases h

/-! ## Time -/

theorem Elapses.refl (terms : Terms) (world : World) : Elapses terms world world where
  now_le := Nat.le_refl _
  cancelled := id
  noticed h := h.resolve_right (Nat.lt_irrefl _)

theorem Elapses.trans (h : Elapses terms world mid) (h' : Elapses terms mid after) :
    Elapses terms world after where
  now_le := Nat.le_trans h.now_le h'.now_le
  cancelled := h'.cancelled ∘ h.cancelled
  noticed := by
    rintro (hworld | hnow)
    · exact h'.noticed (.inl (h.noticed (.inl hworld)))
    · -- time has passed before `mid` or after it
      obtain hmid | hmid := Nat.lt_or_ge world.now mid.now
      · exact h'.noticed (.inl (h.noticed (.inr hmid)))
      · exact h'.noticed (.inr (Nat.lt_of_le_of_lt hmid hnow))

theorem noticed_advance (terms : Terms) (world : World) (time : Ticks) :
    (world.advance terms time).Noticed terms := by
  intro t ht htime
  have hany : (terms.cancelTime?.any fun t => decide (t ≤ time)) = true := by
    rw [Option.mem_def.1 ht]
    exact decide_eq_true htime
  simp only [World.advance, hany, Bool.or_true]

theorem elapses_advance {time : Ticks} (h : world.now ≤ time) :
    Elapses terms world (world.advance terms time) where
  now_le := h
  cancelled hworld := by simp only [World.advance, hworld, Bool.true_or]
  noticed _ := noticed_advance terms world time

theorem elapses_awaitKilled (terms : Terms) (behaviour : Behaviour) (result : RunResult)
    (world : World) : Elapses terms world (awaitKilled terms behaviour result world).2 := by
  obtain h | ⟨time, hle, h⟩ := awaitKilled_cases terms behaviour result world
  · rw [h]
    exact .refl terms world
  · rw [h]
    exact elapses_advance hle

theorem elapses_await (terms : Terms) (behaviour : Behaviour) (world : World) :
    Elapses terms world (await terms behaviour world).2.2 ∧
      ((await terms behaviour world).1 ≠ .endless →
        (await terms behaviour world).2.2.Noticed terms) := by
  unfold await
  split
  · exact ⟨.refl terms world, fun h => absurd rfl h⟩
  · next time hfirst =>
    exact ⟨elapses_advance (event_of_earliest? hfirst).begun_le,
      fun _ => noticed_advance terms world time⟩
  · next ending time _ hfirst =>
    have hwait : Elapses terms world (world.advance terms time) :=
      elapses_advance (event_of_earliest? hfirst).begun_le
    have hkill := elapses_awaitKilled terms behaviour ending.killedResult
      (world.advance terms time)
    exact ⟨hwait.trans hkill, fun _ => hkill.noticed (.inl (noticed_advance terms world time))⟩

/-! ## Processes -/

theorem Elapses.of_clock_eq {begun ended : World} (h : Elapses terms begun ended)
    (hbegun : begun.now = world.now ∧ begun.cancelled = world.cancelled)
    (hended : ended.now = after.now ∧ ended.cancelled = after.cancelled) :
    Elapses terms world after := by
  obtain ⟨hle, hcancelled, hnoticed⟩ := h
  simp only [World.Noticed, hbegun.1, hbegun.2, hended.1, hended.2] at hle hcancelled hnoticed
  exact ⟨hle, hcancelled, hnoticed⟩

theorem elapses_spawn (terms : Terms) (words : List String) (dir : Path) (world : World) :
    Elapses terms world (spawn terms words dir world).2 ∧
      ((spawn terms words dir world).1 ≠ .endless →
        (∀ error, (spawn terms words dir world).1 ≠ .refused error) →
        (spawn terms words dir world).2.Noticed terms) := by
  unfold spawn
  simp only
  split
  · exact ⟨(Elapses.refl terms world).of_clock_eq ⟨rfl, rfl⟩ ⟨rfl, rfl⟩,
      fun _ hrefused => absurd rfl (hrefused _)⟩
  · next place _ =>
    have hclock : (world.start place).2.now = world.now ∧
      (world.start place).2.cancelled = world.cancelled := ⟨rfl, rfl⟩
    split
    · next error started hstart =>
      rw [hstart] at hclock
      exact ⟨(Elapses.refl terms started).of_clock_eq hclock ⟨rfl, rfl⟩,
        fun _ hrefused => absurd rfl (hrefused _)⟩
    · next behaviour started hstart =>
      rw [hstart] at hclock
      obtain ⟨helapses, hnoticed⟩ := elapses_await terms behaviour started
      exact ⟨helapses.of_clock_eq hclock ⟨rfl, rfl⟩, fun hendless _ => hnoticed hendless⟩

theorem Continues.refl (terms : Terms) (world : World) : Continues terms world world where
  toElapses := .refl terms world
  attempts := ⟨[], (List.append_nil _).symm, fun _ _ => rfl, fun _ _ h => nomatch h⟩

theorem Continues.trans (h : Continues terms world mid) (h' : Continues terms mid after) :
    Continues terms world after where
  toElapses := h.toElapses.trans h'.toElapses
  attempts := by
    obtain ⟨first, hfirst, hnone, htimes⟩ := h.attempts
    obtain ⟨others, hothers, hnone', htimes'⟩ := h'.attempts
    refine ⟨first ++ others, ?_, fun hable hcancelled => ?_, fun hnoticed attempt hattempt => ?_⟩
    · rw [hothers, hfirst, List.append_assoc]
    · rw [hnone hable hcancelled, hnone' hable (h.cancelled hcancelled), List.append_nil]
    · rcases List.mem_append.1 hattempt with hattempt | hattempt
      · exact htimes hnoticed attempt hattempt
      · exact htimes' (h.noticed (.inl hnoticed)) attempt hattempt

theorem Continues.of_unlogged_eq {last : World} (h : Continues terms world after)
    (heq : after.unlogged = last.unlogged) : Continues terms world last where
  toElapses := by
    obtain ⟨-, hnow, hcancelled, -⟩ := World.unlogged_eq_iff.1 heq
    exact h.toElapses.of_clock_eq ⟨rfl, rfl⟩ ⟨hnow, hcancelled⟩
  attempts := by
    obtain ⟨-, -, -, hattempts⟩ := World.unlogged_eq_iff.1 heq
    obtain ⟨new, hnew, hrest⟩ := h.attempts
    exact ⟨new, hattempts.symm.trans hnew, hrest⟩

/-- A process is attempted if the call has not been cancelled, and before the time for that if the
call knows that time to have come. -/
theorem continues_run (terms : Terms) (words : List String) (dir : Path) (world : World) :
    Continues terms world (run terms words dir world).2 := by
  unfold run
  split
  · exact .refl terms world
  · next huncancelled =>
    obtain ⟨host, now, cancelled, killed, -, hspawn⟩ := spawn_snd terms words dir world
    refine ⟨(elapses_spawn terms words dir world).1, ?_⟩
    rw [hspawn]
    refine ⟨_, rfl, fun hable hworld => ?_, fun hnoticed attempt hattempt t ht => ?_⟩
    · exact absurd (by rw [hable, hworld]; rfl) huncancelled
    · obtain rfl := List.mem_singleton.1 hattempt
      -- at or after the time `t` the call would be cancelled
      refine Nat.lt_of_not_le fun htime => huncancelled ?_
      rw [cancellable_of_mem_cancelTime? ht, hnoticed t ht htime]
      rfl

theorem noticed_run (hendless : (run terms words dir world).1 ≠ .endless)
    (hrefused : ∀ error, (run terms words dir world).1 ≠ .refused error) :
    (run terms words dir world).2.Noticed terms := by
  unfold run at hendless hrefused ⊢
  split
  · next hcancelled =>
    intro t ht htime
    exact (Bool.and_eq_true_iff.1 hcancelled).2
  · next hcancelled =>
    rw [if_neg hcancelled] at hendless hrefused
    exact (elapses_spawn terms words dir world).2 hendless hrefused

/-! ## Waits that are cut short -/

/-- `name`, started in `dir`, becomes a process of that behaviour that is still waited for at
`time`: it has not ended, and its time is not up. -/
structure RunsUntil (terms : Terms) (name : String) (dir : Path) (world : World)
    (behaviour : Behaviour) (time : Ticks) : Prop where
  uncancelled : (terms.cancellable && world.cancelled) = false
  started : ∃ place, world.host.resolve? name dir (world.childEnv terms) = some place ∧
    (world.start place).1 = .started behaviour
  running : ∀ d ∈ behaviour.duration, time < world.now + d
  inTime : ∀ limit ∈ terms.limit, ∀ d ∈ limit.ticks, time < world.now + d

/-- The wait for a process during which the call is cancelled ends then, unless the call is broken
off before. -/
theorem ending_of_cancelTime? {t time : Ticks} {ending : Ending} (ht : t ∈ terms.cancelTime?)
    (hrunning : ∀ d ∈ behaviour.duration, max world.now t < world.now + d)
    (hinTime : ∀ limit ∈ terms.limit, ∀ d ∈ limit.ticks, max world.now t < world.now + d)
    (hfirst : earliest? (endings terms world behaviour) = some (ending, time)) :
    ending = .cancel ∨ ending = .abort := by
  have hle : time ≤ max world.now t := Behaviour.Event.earliest?_le (.cancel ht) hfirst
  cases event_of_earliest? hfirst with
  | exit hd => exact absurd (hrunning _ hd) (Nat.not_lt.2 hle)
  | cancel => exact .inl rfl
  | timeout hl hd => exact absurd (hinTime _ hl _ hd) (Nat.not_lt.2 hle)
  | abort => exact .inr rfl

theorem await_cancelled {t : Ticks} (ht : t ∈ terms.cancelTime?)
    (hrunning : ∀ d ∈ behaviour.duration, max world.now t < world.now + d)
    (hinTime : ∀ limit ∈ terms.limit, ∀ d ∈ limit.ticks, max world.now t < world.now + d)
    (haborted : (await terms behaviour world).1 ≠ .aborted) :
    (await terms behaviour world).1 = .cancelled ∧
      (await terms behaviour world).2.1 = !behaviour.escapesKill := by
  unfold await at haborted ⊢
  cases hfirst : earliest? (endings terms world behaviour) with
  | none => exact absurd (.cancel ht) (not_event_of_earliest?_eq_none hfirst _ _)
  | some first =>
    obtain ⟨ending, time⟩ := first
    rw [hfirst] at haborted
    rcases ending_of_cancelTime? ht hrunning hinTime hfirst with rfl | rfl
    · -- nothing can come of a killed process but what it was killed for
      obtain h | ⟨h, -⟩ := awaitKilled_fst_cases terms behaviour .cancelled
        (world.advance terms time)
      · exact ⟨h, rfl⟩
      · exact absurd h haborted
    · obtain h | ⟨h, -⟩ := awaitKilled_fst_cases terms behaviour .aborted
        (world.advance terms time) <;> exact absurd h haborted

theorem run_of_started {name : String} {args : List String} {place : Path}
    (huncancelled : (terms.cancellable && world.cancelled) = false)
    (hplace : world.host.resolve? name dir (world.childEnv terms) = some place)
    (hlaunch : (world.start place).1 = .started behaviour) :
    run terms (name :: args) dir world =
      ((await terms behaviour (world.start place).2).1,
        (await terms behaviour (world.start place).2).2.2.attempted terms world.now
          (name :: args) dir (await terms behaviour (world.start place).2).2.1) := by
  rw [run, huncancelled, if_neg (by decide), spawn]
  simp only [List.headD_cons, hplace]
  cases hstart : world.start place with
  | mk launch started =>
    rw [hstart] at hlaunch
    obtain rfl : launch = .started behaviour := hlaunch
    rfl

theorem RunsUntil.run_cancelled {name : String} {args : List String} {t : Ticks}
    (h : RunsUntil terms name dir world behaviour (max world.now t)) (ht : t ∈ terms.cancelTime?)
    (haborted : (run terms (name :: args) dir world).1 ≠ .aborted) :
    (run terms (name :: args) dir world).1 = .cancelled ∧
      (run terms (name :: args) dir world).2.attempts = world.attempts ++
        [⟨world.now, name :: args, dir, world.childEnv terms, !behaviour.escapesKill⟩] := by
  obtain ⟨place, hplace, hlaunch⟩ := h.started
  rw [run_of_started h.uncancelled hplace hlaunch] at haborted ⊢
  -- a start takes no time
  have hwait : (await terms behaviour (world.start place).2).1 = .cancelled ∧
      (await terms behaviour (world.start place).2).2.1 = !behaviour.escapesKill :=
    await_cancelled ht h.running h.inTime haborted
  obtain ⟨hresult, hkilled⟩ := hwait
  obtain ⟨now, cancelled, hafter⟩ := await_snd terms behaviour (world.start place).2
  refine ⟨hresult, ?_⟩
  simp only [World.attempted, hafter, hkilled]
  rfl

end

end CompilerCommands
