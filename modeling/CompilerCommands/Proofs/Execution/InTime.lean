import CompilerCommands.Proofs.Execution.Events

/-!
# Processes that end in time

A process that ends before its call is cancelled, its time is up and its call is broken off ends the
waiting, and its output and status are the result.
-/

namespace CompilerCommands

/-- A process that begins at `now` and takes `duration` ends before anything cuts it short. -/
structure EndsInTime (terms : Terms) (now duration : Ticks) : Prop where
  cancel : ∀ t ∈ terms.cancelTime?, now + duration ≤ t
  limit : ∀ limit ∈ terms.limit, ∀ t ∈ limit.ticks, duration ≤ t
  abort : ∀ t ∈ terms.abortAt, now + duration ≤ t

theorem EndsInTime.earliest?_eq {terms : Terms} {world : World} {behaviour : Behaviour}
    {duration : Ticks} (h : EndsInTime terms world.now duration)
    (hd : behaviour.duration = some duration) :
    earliest? (endings terms world behaviour) = some (.exit, world.now + duration) := by
  refine earliest?_eq_exit hd fun ending time hevent => ?_
  cases hevent with
  | exit hd' =>
    cases hd.symm.trans hd'
    exact Nat.le_refl _
  | cancel ht => exact Nat.le_trans (h.cancel _ ht) (Nat.le_max_right ..)
  | timeout hl ht => exact Nat.add_le_add_left (h.limit _ hl _ ht) _
  | abort ht => exact Nat.le_trans (h.abort _ ht) (Nat.le_max_right ..)

/-- `name`, started in `dir`, becomes a process of that behaviour, which ends in time. -/
structure RunsInTime (terms : Terms) (name : String) (dir : Path) (world : World)
    (behaviour : Behaviour) : Prop where
  uncancelled : (terms.cancellable && world.cancelled) = false
  started : ∃ place, world.host.resolve? name dir (world.childEnv terms) = some place ∧
    (world.start place).1 = .started behaviour
  inTime : ∃ duration, behaviour.duration = some duration ∧
    EndsInTime terms world.now duration

theorem RunsInTime.log {terms : Terms} {name : String} {dir : Path} {world : World}
    {behaviour : Behaviour} (h : RunsInTime terms name dir world behaviour) (level : LogLevel)
    (source : LogSource) (message : String) :
    RunsInTime terms name dir (world.log level source message) behaviour :=
  ⟨h.uncancelled, h.started, h.inTime⟩

theorem RunsInTime.run_fst {terms : Terms} {name : String} {dir : Path} {world : World}
    {behaviour : Behaviour} (h : RunsInTime terms name dir world behaviour) (args : List String) :
    (run terms (name :: args) dir world).1 = .finished behaviour.text behaviour.status := by
  obtain ⟨place, hplace, hstart⟩ := h.started
  obtain ⟨duration, hd, hin⟩ := h.inTime
  have hfirst : earliest? (endings terms (world.start place).2 behaviour) =
      some (.exit, (world.start place).2.now + duration) := hin.earliest?_eq hd
  unfold run
  rw [h.uncancelled, if_neg (by decide)]
  unfold spawn
  simp only [List.headD_cons, hplace]
  cases hs : world.start place with
  | mk launch started =>
    rw [hs] at hstart hfirst
    obtain rfl : launch = .started behaviour := hstart
    simp only [await, hfirst]

end CompilerCommands
