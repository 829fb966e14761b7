import CompilerCommands.Proofs.Execution.Cancellation

/-!
# How a wait ends

What can come of starting a name and waiting for its process: the name is refused, or the process
ends by itself, or something that the terms of the call speak of comes before that.
-/

namespace CompilerCommands

def World.launch (world : World) (terms : Terms) (name : String) (dir : Path) : Launch :=
  match world.host.resolve? name dir (world.childEnv terms) with
  | none => .refused (.notFound (Text.quoted name))
  | some place => (world.start place).1

/-- The process is still there when the time is up. -/
def Behaviour.Outlives (behaviour : Behaviour) (limit : TimeLimit) : Prop :=
  ∃ time ∈ limit.ticks, ∀ duration ∈ behaviour.duration, time < duration

/-- What can come of waiting for a process. -/
inductive Behaviour.Yields (terms : Terms) (behaviour : Behaviour) : RunResult → Prop
  | finished : Yields terms behaviour (.finished behaviour.text behaviour.status)
  | cancelled (h : terms.cancelTime?.isSome = true) : Yields terms behaviour .cancelled
  | timedOut {limit : TimeLimit} (h : limit ∈ terms.limit) (hout : behaviour.Outlives limit) :
    Yields terms behaviour (.timedOut limit)
  | aborted (h : terms.abortAt.isSome = true) : Yields terms behaviour .aborted
  | endless (h : behaviour.duration = none) : Yields terms behaviour .endless

variable {terms : Terms} {behaviour : Behaviour} {world : World} {name : String}
  {args : List String} {dir : Path} {error : StartError}

/-! ## Waiting -/

theorem duration_of_no_ending (h : earliest? (endings terms world behaviour) = none) :
    behaviour.duration = none := by
  cases hd : behaviour.duration with
  | none => rfl
  | some d => exact absurd (.exit hd) (not_event_of_earliest?_eq_none h _ _)

theorem Behaviour.yields_killed {ending : Ending} {time : Ticks} (hexit : ending ≠ .exit)
    (h : earliest? (endings terms world behaviour) = some (ending, time)) :
    behaviour.Yields terms ending.killedResult := by
  have hlater {duration : Ticks} (hduration : behaviour.duration = some duration) :
      time < world.now + duration := lt_of_earliest?_endings h hexit hduration
  cases event_of_earliest? h with
  | exit => exact absurd rfl hexit
  | cancel ht => exact .cancelled (Option.isSome_of_eq_some ht)
  | timeout hlimit hd =>
    refine .timedOut hlimit ⟨_, hd, fun duration hduration => ?_⟩
    exact Nat.lt_of_add_lt_add_left (hlater hduration)
  | abort ht => exact .aborted (Option.isSome_of_eq_some ht)

theorem await_yields (terms : Terms) (behaviour : Behaviour) (world : World) :
    behaviour.Yields terms (await terms behaviour world).1 := by
  unfold await
  split
  · next hnone => exact .endless (duration_of_no_ending hnone)
  · exact .finished
  · next ending time hexit hfirst =>
    have hkilled : behaviour.Yields terms ending.killedResult :=
      Behaviour.yields_killed hexit hfirst
    obtain h | ⟨h, habort⟩ := awaitKilled_fst_cases terms behaviour ending.killedResult
      (world.advance terms time)
    · simp only [h]
      exact hkilled
    · simp only [h]
      exact .aborted habort

/-! ## Starting -/

theorem run_fst_of_refused (args : List String)
    (huncancelled : (terms.cancellable && world.cancelled) = false)
    (h : world.launch terms name dir = .refused error) :
    (run terms (name :: args) dir world).1 = .refused error := by
  rw [run, huncancelled, if_neg (by decide)]
  unfold World.launch at h
  simp only [spawn, List.headD_cons]
  cases hplace : world.host.resolve? name dir (world.childEnv terms) with
  | none =>
    rw [hplace] at h
    cases h
    rfl
  | some place =>
    simp only [hplace] at h ⊢
    cases hstart : world.start place with
    | mk launch started =>
      rw [hstart] at h
      cases h
      rfl

theorem World.exists_place_of_launch (h : world.launch terms name dir = .started behaviour) :
    ∃ place, world.host.resolve? name dir (world.childEnv terms) = some place ∧
      (world.start place).1 = .started behaviour := by
  unfold World.launch at h
  split at h
  · cases h
  · next place hplace => exact ⟨place, hplace, h⟩

theorem run_yields (args : List String)
    (huncancelled : (terms.cancellable && world.cancelled) = false)
    (h : world.launch terms name dir = .started behaviour) :
    behaviour.Yields terms (run terms (name :: args) dir world).1 := by
  obtain ⟨place, hplace, hstart⟩ := World.exists_place_of_launch h
  rw [run_of_started huncancelled hplace hstart]
  exact await_yields terms behaviour (world.start place).2

/-- What can come of running a process: nothing, if the call has been cancelled; else a refusal, or
what the process yields. -/
theorem run_fst_cases (terms : Terms) (name : String) (args : List String) (dir : Path)
    (world : World) :
    (run terms (name :: args) dir world).1 = .cancelled ∨
      (terms.cancellable && world.cancelled) = false ∧
        ((∃ error, world.launch terms name dir = .refused error ∧
          (run terms (name :: args) dir world).1 = .refused error) ∨
        ∃ behaviour, world.launch terms name dir = .started behaviour ∧
          behaviour.Yields terms (run terms (name :: args) dir world).1) := by
  cases hcancelled : terms.cancellable && world.cancelled with
  | true =>
    left
    rw [run, hcancelled, if_pos rfl]
  | false =>
    refine .inr ⟨rfl, ?_⟩
    cases hlaunch : world.launch terms name dir with
    | refused error => exact .inl ⟨error, rfl, run_fst_of_refused args hcancelled hlaunch⟩
    | started behaviour => exact .inr ⟨behaviour, rfl, run_yields args hcancelled hlaunch⟩

end CompilerCommands
