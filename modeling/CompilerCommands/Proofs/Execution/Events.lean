import CompilerCommands.Execution.Run

/-!
# Events

Four things can end the wait for a process: the process ends, its call is cancelled, its time is
up, or the call is broken off. They are listed in this order, so at the same time the end of the
process comes first.
-/

namespace CompilerCommands

/-- What can end the wait for a process that began at `begun`, and when it comes. -/
inductive Behaviour.Event (terms : Terms) (behaviour : Behaviour) (begun : Ticks) :
    Ending → Ticks → Prop
  | exit {duration : Ticks} (h : behaviour.duration = some duration) :
    Event terms behaviour begun .exit (begun + duration)
  | cancel {t : Ticks} (h : terms.cancelTime? = some t) :
    Event terms behaviour begun .cancel (max begun t)
  | timeout {limit : TimeLimit} {duration : Ticks} (h : terms.limit = some limit)
    (hduration : limit.ticks = some duration) :
    Event terms behaviour begun (.timeout limit) (begun + duration)
  | abort {t : Ticks} (h : terms.abortAt = some t) :
    Event terms behaviour begun .abort (max begun t)

variable {terms : Terms} {behaviour : Behaviour} {world : World} {begun time : Ticks}
  {ending : Ending}

theorem mem_endings_iff :
    (ending, time) ∈ endings terms world behaviour ↔
      behaviour.Event terms world.now ending time := by
  simp only [endings, List.mem_append, Option.mem_toList, Option.map_eq_some_iff,
    Option.bind_eq_some_iff, Prod.mk.injEq]
  constructor
  · rintro (((⟨d, hd, rfl, rfl⟩ | ⟨t, ht, rfl, rfl⟩) | ⟨limit, hlimit, d, hd, rfl, rfl⟩) |
      ⟨t, ht, rfl, rfl⟩)
    · exact .exit hd
    · exact .cancel ht
    · exact .timeout hlimit hd
    · exact .abort ht
  · intro h
    cases h with
    | exit hd => exact .inl (.inl (.inl ⟨_, hd, rfl, rfl⟩))
    | cancel ht => exact .inl (.inl (.inr ⟨_, ht, rfl, rfl⟩))
    | timeout hlimit hd => exact .inl (.inr ⟨_, hlimit, _, hd, rfl, rfl⟩)
    | abort ht => exact .inr ⟨_, ht, rfl, rfl⟩

namespace Behaviour.Event

theorem begun_le (h : behaviour.Event terms begun ending time) : begun ≤ time := by
  cases h with
  | exit => exact Nat.le_add_right ..
  | cancel => exact Nat.le_max_left ..
  | timeout => exact Nat.le_add_right ..
  | abort => exact Nat.le_max_left ..

theorem time_eq {other : Ticks} (h : behaviour.Event terms begun ending time)
    (h' : behaviour.Event terms begun ending other) : other = time := by
  cases h <;> cases h' <;> simp_all

theorem abort_le {t : Ticks} (h : behaviour.Event terms begun .abort time)
    (ht : terms.abortAt = some t) : t ≤ time := by
  rw [← h.time_eq (.abort ht)]
  exact Nat.le_max_right ..

end Behaviour.Event

/-! ## The earliest event -/

theorem event_of_earliest? (h : earliest? (endings terms world behaviour) = some (ending, time)) :
    behaviour.Event terms world.now ending time :=
  mem_endings_iff.1 (mem_of_earliest? h)

theorem Behaviour.Event.earliest?_le {other : Ending} {later : Ticks}
    (h : behaviour.Event terms world.now other later)
    (hfirst : earliest? (endings terms world behaviour) = some (ending, time)) : time ≤ later :=
  CompilerCommands.earliest?_le hfirst (mem_endings_iff.2 h)

theorem not_event_of_earliest?_eq_none (h : earliest? (endings terms world behaviour) = none)
    (ending : Ending) (time : Ticks) : ¬behaviour.Event terms world.now ending time := by
  intro hevent
  have hmem := mem_endings_iff.2 hevent
  rw [earliest?_eq_none_iff.1 h] at hmem
  cases hmem

theorem earliest?_cons_of_le {α : Type} {first : α × Ticks} {rest : List (α × Ticks)}
    (h : ∀ e ∈ rest, first.2 ≤ e.2) : earliest? (first :: rest) = some first := by
  rw [earliest?]
  split
  · next later hl =>
    rw [if_neg (Nat.not_lt.2 (h later (mem_of_earliest? hl)))]
  · rfl

theorem lt_of_earliest?_cons {α : Type} {first event : α × Ticks} {rest : List (α × Ticks)}
    (h : earliest? (first :: rest) = some event) (hne : event ≠ first) : event.2 < first.2 := by
  rw [earliest?] at h
  split at h
  · split at h
    · next hlt =>
      cases h
      exact hlt
    · cases h
      exact absurd rfl hne
  · cases h
    exact absurd rfl hne

theorem earliest?_eq_exit {duration : Ticks} (hduration : behaviour.duration = some duration)
    (h : ∀ ending time, behaviour.Event terms world.now ending time → world.now + duration ≤ time) :
    earliest? (endings terms world behaviour) = some (.exit, world.now + duration) := by
  have hendings :
      ∃ rest, endings terms world behaviour = (.exit, world.now + duration) :: rest := by
    rw [endings, hduration]
    exact ⟨_, rfl⟩
  obtain ⟨rest, hendings⟩ := hendings
  rw [hendings]
  refine earliest?_cons_of_le fun event hevent => h event.1 event.2 (mem_endings_iff.1 ?_)
  rw [hendings]
  exact List.mem_cons_of_mem _ hevent

theorem lt_of_earliest?_endings {duration : Ticks}
    (h : earliest? (endings terms world behaviour) = some (ending, time)) (hexit : ending ≠ .exit)
    (hduration : behaviour.duration = some duration) : time < world.now + duration := by
  rw [endings, hduration] at h
  exact lt_of_earliest?_cons h fun heq => hexit (congrArg Prod.fst heq)

end CompilerCommands
