import CompilerCommands.Discovery.Failure
import CompilerCommands.Proofs.Execution.Endings

/-!
# The first event decides

The event that comes first says what the caller of a process gets. Unless it is the end of the
process, the process is killed, and the call ends at once or, if the process goes on all the same,
when five seconds are over or the call is broken off meanwhile. What comes after the end of the call
makes no difference.
-/

namespace CompilerCommands

/-! ## What comes first -/

/-- The process ends at once, and its time is up at once. -/
def Ending.AtOnce (begun time : Ticks) (ending other : Ending) : Prop :=
  time = begun ∧ ending = .exit ∧ ∃ limit, other = .timeout limit

/-- No two events come at the same time, unless a process ends at once when its time is up at
once. -/
def Behaviour.Untied (terms : Terms) (behaviour : Behaviour) (begun : Ticks) : Prop :=
  ∀ ending other time, behaviour.Event terms begun ending time →
    behaviour.Event terms begun other time → ending ≠ other →
      ending.AtOnce begun time other ∨ other.AtOnce begun time ending

/-- `ending` comes at `time` and before everything else. The end of a process comes before a time
that is up at once. -/
structure Behaviour.First (terms : Terms) (behaviour : Behaviour) (begun : Ticks)
    (ending : Ending) (time : Ticks) : Prop where
  event : behaviour.Event terms begun ending time
  before : ∀ other later, behaviour.Event terms begun other later → other ≠ ending →
    time < later ∨ later = time ∧ ending.AtOnce begun time other

/-! ## What follows -/

/-- What a call comes to that has started a process: what the caller gets, whether the process was
killed, and when the call is over. -/
structure CallEnd where
  answer : Except Failure (Option (String × Int))
  killed : Bool
  time : Ticks

/-- What the caller of `name` gets when an event has ended the wait. -/
def Ending.answer (name : String) (behaviour : Behaviour) :
    Ending → Except Failure (Option (String × Int))
  | exit => .ok (some
      (Text.stripEnd (String.ofList (Text.Utf8.decode behaviour.output)), behaviour.status))
  | cancel => .ok none
  | timeout limit => .error (.timedOut name limit)
  | abort => .error .aborted

/-- How a call goes on from the event that comes first, at `time`. The one attempt to kill a process
fails only if the process is gone just then. -/
inductive Behaviour.Concludes (terms : Terms) (behaviour : Behaviour) (name : String)
    (time : Ticks) : Ending → CallEnd → Prop
  | ended : Concludes terms behaviour name time .exit
      ⟨Ending.exit.answer name behaviour, false, time⟩
  /-- The killed process goes. -/
  | killed {ending : Ending} (hexit : ending ≠ .exit) (hgoes : behaviour.ignoresKill = false) :
    Concludes terms behaviour name time ending
      ⟨ending.answer name behaviour, !behaviour.escapesKill, time⟩
  /-- The killed process goes on, and the call waits no longer. -/
  | outlived {ending : Ending} (hexit : ending ≠ .exit) (hstays : behaviour.ignoresKill = true)
    (habort : ∀ t, terms.abortAt = some t → time < t → time + Ticks.ofMilliseconds 5000 ≤ t) :
    Concludes terms behaviour name time ending
      ⟨ending.answer name behaviour, !behaviour.escapesKill, time + Ticks.ofMilliseconds 5000⟩
  /-- The killed process goes on, and the call is broken off while it waits. -/
  | interrupted {ending : Ending} {t : Ticks} (hexit : ending ≠ .exit)
    (hstays : behaviour.ignoresKill = true) (habort : terms.abortAt = some t) (hafter : time < t)
    (hbefore : t < time + Ticks.ofMilliseconds 5000) :
    Concludes terms behaviour name time ending ⟨.error .aborted, !behaviour.escapesKill, t⟩

/-- Running `name` comes to `callEnd`, with one attempt. -/
structure RunEnds (terms : Terms) (name : String) (args : List String) (dir : Path) (world : World)
    (callEnd : CallEnd) : Prop where
  answer : (run terms (name :: args) dir world).1.toExcept name = callEnd.answer
  now : (run terms (name :: args) dir world).2.now = callEnd.time
  attempts : (run terms (name :: args) dir world).2.attempts = world.attempts ++
    [⟨world.now, name :: args, dir, world.childEnv terms, callEnd.killed⟩]

/-- With other terms and another duration of the process, the same events come up to `last`. -/
def Behaviour.SameEvents (terms : Terms) (behaviour : Behaviour) (begun last : Ticks)
    (terms' : Terms) (duration' : Option Ticks) : Prop :=
  ∀ ending time, time ≤ last →
    (({ behaviour with duration := duration' } : Behaviour).Event terms' begun ending time ↔
      behaviour.Event terms begun ending time)

variable {terms terms' : Terms} {behaviour : Behaviour} {world : World} {begun time last : Ticks}
  {duration' : Option Ticks} {ending : Ending} {name : String} {args : List String} {dir : Path}
  {callEnd : CallEnd}

/-! ## Finding the first event -/

theorem Behaviour.First.lt_abort {t : Ticks} (h : behaviour.First terms begun ending time)
    (ht : terms.abortAt = some t) (hother : ending ≠ .abort) : time < t := by
  rcases h.before .abort _ (.abort ht) (Ne.symm hother) with hlt | ⟨-, -, -, limit, hlimit⟩
  · rcases Nat.le_total begun t with hle | hle
    · rwa [Nat.max_eq_right hle] at hlt
    · rw [Nat.max_eq_left hle] at hlt
      exact absurd hlt (Nat.not_lt.2 h.event.begun_le)
  · cases hlimit

theorem Behaviour.First.earliest?_eq (h : behaviour.First terms world.now ending time) :
    earliest? (endings terms world behaviour) = some (ending, time) := by
  cases hfirst : earliest? (endings terms world behaviour) with
  | none => exact absurd h.event (not_event_of_earliest?_eq_none hfirst ending time)
  | some first =>
    obtain ⟨other, earlier⟩ := first
    have hle : earlier ≤ time := h.event.earliest?_le hfirst
    have hevent : behaviour.Event terms world.now other earlier := event_of_earliest? hfirst
    by_cases hother : other = ending
    · subst hother
      rw [h.event.time_eq hevent]
    · rcases h.before other earlier hevent hother with hlt | ⟨rfl, -, rfl, limit, rfl⟩
      · exact absurd hlt (Nat.not_lt.2 hle)
      · -- an end of the process at that time would have been taken
        cases h.event with
        | exit hd => exact absurd (lt_of_earliest?_endings hfirst nofun hd) (Nat.lt_irrefl _)

theorem Behaviour.Untied.first (h : behaviour.Untied terms world.now)
    (hfirst : earliest? (endings terms world behaviour) = some (ending, time)) :
    behaviour.First terms world.now ending time where
  event := event_of_earliest? hfirst
  before other later hlater hother := by
    have hevent : behaviour.Event terms world.now ending time := event_of_earliest? hfirst
    have hle : time ≤ later := hlater.earliest?_le hfirst
    rcases Nat.lt_or_eq_of_le hle with hlt | rfl
    · exact .inl hlt
    · right
      rcases h ending other time hevent hlater (Ne.symm hother) with h | ⟨-, rfl, limit, rfl⟩
      · exact ⟨rfl, h⟩
      · cases hlater with
        | exit hd => exact absurd (lt_of_earliest?_endings hfirst nofun hd) (Nat.lt_irrefl _)

/-! ## Going on from it -/

theorem Ending.toExcept_killedResult (hexit : ending ≠ .exit) (name : String)
    (behaviour : Behaviour) :
    ending.killedResult.toExcept name = ending.answer name behaviour := by
  cases ending with
  | exit => exact absurd rfl hexit
  | cancel | timeout limit | abort => rfl

theorem Ending.killedResult_eq_aborted (h : ending.killedResult = .aborted) : ending = .abort := by
  cases ending with
  | abort => rfl
  | exit | cancel | timeout limit => cases h

/-- Whatever comes first, the call goes on in one of the four ways. -/
theorem Behaviour.exists_concludes (terms : Terms) (behaviour : Behaviour) (name : String)
    (time : Ticks) (ending : Ending) :
    ∃ callEnd, behaviour.Concludes terms name time ending callEnd := by
  by_cases hexit : ending = .exit
  · subst hexit
    exact ⟨_, .ended⟩
  cases hignores : behaviour.ignoresKill with
  | false => exact ⟨_, .killed hexit hignores⟩
  | true =>
    by_cases habort : ∃ t, terms.abortAt = some t ∧ time < t ∧
        t < time + Ticks.ofMilliseconds 5000
    · obtain ⟨t, ht, hafter, hbefore⟩ := habort
      exact ⟨_, .interrupted hexit hignores ht hafter hbefore⟩
    · refine ⟨_, .outlived hexit hignores fun t ht hafter => Nat.le_of_not_lt fun hbefore => ?_⟩
      exact habort ⟨t, ht, hafter, hbefore⟩

theorem Behaviour.Concludes.le (h : behaviour.Concludes terms name time ending callEnd) :
    time ≤ callEnd.time := by
  cases h with
  | ended | killed => exact Nat.le_refl _
  | outlived => exact Nat.le_add_right ..
  | interrupted _ _ _ hafter => exact Nat.le_of_lt hafter

theorem killPatience_eq : killPatience = Ticks.ofMilliseconds 5000 := rfl

theorem awaitKilled_of_outlived {result : RunResult} (hstays : behaviour.ignoresKill = true)
    (habort : ∀ t, terms.abortAt = some t → result ≠ .aborted →
      world.now + Ticks.ofMilliseconds 5000 ≤ t) :
    awaitKilled terms behaviour result world =
      (result, world.advance terms (world.now + Ticks.ofMilliseconds 5000)) := by
  unfold awaitKilled
  rw [if_pos hstays, killPatience_eq]
  generalize Ticks.ofMilliseconds 5000 = patience at habort ⊢
  cases hat : terms.abortAt with
  | none => rfl
  | some t =>
    have hkeeps : ¬(t < world.now + patience ∧ result ≠ .aborted) := fun ⟨hlt, hresult⟩ =>
      Nat.not_le.2 hlt (habort t hat hresult)
    simp only [if_neg hkeeps]

theorem awaitKilled_of_interrupted {result : RunResult} {t : Ticks}
    (hstays : behaviour.ignoresKill = true) (ht : terms.abortAt = some t)
    (hresult : result ≠ .aborted) (hafter : world.now < t)
    (hbefore : t < world.now + Ticks.ofMilliseconds 5000) :
    awaitKilled terms behaviour result world = (.aborted, world.advance terms t) := by
  unfold awaitKilled
  rw [if_pos hstays, ht, killPatience_eq]
  generalize Ticks.ofMilliseconds 5000 = patience at hbefore ⊢
  simp only [if_pos (And.intro hbefore hresult), Nat.max_eq_right (Nat.le_of_lt hafter)]

theorem await_of_killed (hexit : ending ≠ .exit)
    (hfirst : earliest? (endings terms world behaviour) = some (ending, time)) :
    await terms behaviour world =
      ((awaitKilled terms behaviour ending.killedResult (world.advance terms time)).1,
        !behaviour.escapesKill,
        (awaitKilled terms behaviour ending.killedResult (world.advance terms time)).2) := by
  unfold await
  rw [hfirst]
  cases ending with
  | exit => exact absurd rfl hexit
  | cancel | timeout limit | abort => rfl

theorem Behaviour.Concludes.await_eq (h : behaviour.Concludes terms name time ending callEnd)
    (hfirst : behaviour.First terms world.now ending time) :
    (await terms behaviour world).1.toExcept name = callEnd.answer ∧
      (await terms behaviour world).2.1 = callEnd.killed ∧
      (await terms behaviour world).2.2.now = callEnd.time := by
  have hearliest := hfirst.earliest?_eq
  cases h with
  | ended =>
    rw [await, hearliest]
    exact ⟨rfl, rfl, rfl⟩
  | killed hexit hgoes =>
    rw [await_of_killed hexit hearliest, awaitKilled, if_neg (by rw [hgoes]; decide)]
    exact ⟨ending.toExcept_killedResult hexit name behaviour, rfl, rfl⟩
  | outlived hexit hstays habort =>
    have hwait : awaitKilled terms behaviour ending.killedResult (world.advance terms time) =
        (ending.killedResult, (world.advance terms time).advance terms
          (time + Ticks.ofMilliseconds 5000)) :=
      awaitKilled_of_outlived hstays fun t ht hresult =>
        habort t ht (hfirst.lt_abort ht fun h => hresult (h ▸ rfl))
    rw [await_of_killed hexit hearliest, hwait]
    exact ⟨ending.toExcept_killedResult hexit name behaviour, rfl, rfl⟩
  | @interrupted _ t hexit hstays ht hafter hbefore =>
    have hother : ending.killedResult ≠ .aborted := by
      intro haborted
      obtain rfl := Ending.killedResult_eq_aborted haborted
      exact absurd hafter (Nat.not_lt.2 (hfirst.event.abort_le ht))
    have hwait : awaitKilled terms behaviour ending.killedResult (world.advance terms time) =
        (.aborted, (world.advance terms time).advance terms t) :=
      awaitKilled_of_interrupted hstays ht hother hafter hbefore
    rw [await_of_killed hexit hearliest, hwait]
    exact ⟨rfl, rfl, rfl⟩

/-- A call that starts a process comes to what follows from the first event. -/
theorem Behaviour.Concludes.runEnds (h : behaviour.Concludes terms name time ending callEnd)
    (hfirst : behaviour.First terms world.now ending time)
    (huncancelled : (terms.cancellable && world.cancelled) = false)
    (hlaunch : world.launch terms name dir = .started behaviour) :
    RunEnds terms name args dir world callEnd := by
  obtain ⟨place, hplace, hstart⟩ := World.exists_place_of_launch hlaunch
  have hrun : run terms (name :: args) dir world = _ := run_of_started huncancelled hplace hstart
  -- a start takes no time
  have hbegun : behaviour.First terms (world.start place).2.now ending time := hfirst
  obtain ⟨hanswer, hkilled, hnow⟩ := h.await_eq hbegun
  obtain ⟨now, cancelled, hafter⟩ := await_snd terms behaviour (world.start place).2
  refine ⟨by rw [hrun]; exact hanswer, by rw [hrun]; exact hnow, ?_⟩
  rw [hrun]
  simp only [World.attempted, hafter, hkilled]
  rfl

/-! ## Later events -/

theorem Behaviour.SameEvents.first
    (h : behaviour.SameEvents terms begun last terms' duration') (hle : time ≤ last)
    (hfirst : behaviour.First terms begun ending time) :
    ({ behaviour with duration := duration' } : Behaviour).First terms' begun ending time where
  event := (h ending time hle).2 hfirst.event
  before other later hlater hother := by
    by_cases hin : later ≤ last
    · exact hfirst.before other later ((h other later hin).1 hlater) hother
    · exact .inl (Nat.lt_of_le_of_lt hle (Nat.lt_of_not_le hin))

theorem Behaviour.event_abort_iff (hafter : begun < time) :
    behaviour.Event terms begun .abort time ↔ terms.abortAt = some time := by
  constructor
  · intro h
    cases h with
    | @abort t ht =>
      -- the call is not broken off before the process begins
      have hle : begun ≤ t := Nat.le_of_not_lt fun hlt => by
        rw [Nat.max_eq_left (Nat.le_of_lt hlt)] at hafter
        exact Nat.lt_irrefl _ hafter
      rw [ht, Nat.max_eq_right hle]
  · intro ht
    have h : behaviour.Event terms begun .abort (max begun time) := .abort ht
    rwa [Nat.max_eq_right (Nat.le_of_lt hafter)] at h

theorem Behaviour.SameEvents.abortAt_iff
    (h : behaviour.SameEvents terms begun last terms' duration') (hafter : begun < time)
    (hle : time ≤ last) : terms'.abortAt = some time ↔ terms.abortAt = some time :=
  (Behaviour.event_abort_iff hafter).symm.trans
    ((h .abort time hle).trans (Behaviour.event_abort_iff hafter))

/-- The way in which a call goes on depends on no event after its end. -/
theorem Behaviour.Concludes.of_sameEvents
    (h : behaviour.Concludes terms name time ending callEnd)
    (hsame : behaviour.SameEvents terms begun callEnd.time terms' duration')
    (hbegun : begun ≤ time) :
    ({ behaviour with duration := duration' } : Behaviour).Concludes terms' name time ending
      callEnd := by
  cases h with
  | ended => exact .ended
  | killed hexit hgoes => exact .killed hexit hgoes
  | outlived hexit hstays habort =>
    refine .outlived hexit hstays fun t ht hafter => Nat.le_of_not_lt fun hbefore => ?_
    have ht' : terms.abortAt = some t :=
      (hsame.abortAt_iff (Nat.lt_of_le_of_lt hbegun hafter) (Nat.le_of_lt hbefore)).1 ht
    exact Nat.not_le.2 hbefore (habort t ht' hafter)
  | interrupted hexit hstays ht hafter hbefore =>
    have ht' := (hsame.abortAt_iff (Nat.lt_of_le_of_lt hbegun hafter) (Nat.le_refl _)).2 ht
    exact .interrupted hexit hstays ht' hafter hbefore

/-! ## Running -/

theorem run_endless (args : List String) (hnone : ∀ ending time,
      ¬behaviour.Event terms world.now ending time)
    (huncancelled : (terms.cancellable && world.cancelled) = false)
    (hlaunch : world.launch terms name dir = .started behaviour) :
    (run terms (name :: args) dir world).1 = .endless := by
  obtain ⟨place, hplace, hstart⟩ := World.exists_place_of_launch hlaunch
  have hendings : endings terms (world.start place).2 behaviour = [] :=
    List.eq_nil_iff_forall_not_mem.2 fun event hevent =>
      hnone event.1 event.2 (mem_endings_iff.1 hevent)
  rw [run_of_started huncancelled hplace hstart, await, earliest?_eq_none_iff.2 hendings]

/-- A call that has been cancelled starts nothing. Else, if no two events come at the same time, a
process that is started is waited for until the first of them, if there is one, and then the call
goes on as that event has it: it gives what the process came to, or it gives nothing or fails and
the process is killed before it is over. What comes after that makes no difference. -/
theorem run_concludes (terms : Terms) (name : String) (args : List String) (dir : Path)
    (world : World) :
    ((terms.cancellable && world.cancelled) = true →
      run terms (name :: args) dir world = (.cancelled, world)) ∧
    ((terms.cancellable && world.cancelled) = false → ∀ behaviour,
      world.launch terms name dir = .started behaviour → behaviour.Untied terms world.now →
      ((∀ ending time, ¬behaviour.Event terms world.now ending time) ∧
        (run terms (name :: args) dir world).1 = .endless) ∨
      ∃ ending time callEnd, behaviour.First terms world.now ending time ∧
        behaviour.Concludes terms name time ending callEnd ∧
        RunEnds terms name args dir world callEnd ∧
        ∀ terms' world' duration', (terms'.cancellable && world'.cancelled) = false →
          world'.launch terms' name dir = .started { behaviour with duration := duration' } →
          world'.now = world.now →
          behaviour.SameEvents terms world.now callEnd.time terms' duration' →
          RunEnds terms' name args dir world' callEnd) := by
  constructor
  · intro hcancelled
    rw [run, if_pos hcancelled]
  intro huncancelled behaviour hlaunch huntied
  cases hfirst : earliest? (endings terms world behaviour) with
  | none =>
    have hnone := not_event_of_earliest?_eq_none hfirst
    exact .inl ⟨hnone, run_endless args hnone huncancelled hlaunch⟩
  | some first =>
    right
    obtain ⟨ending, time⟩ := first
    have hfirst : behaviour.First terms world.now ending time := huntied.first hfirst
    obtain ⟨callEnd, hconcludes⟩ := behaviour.exists_concludes terms name time ending
    refine ⟨ending, time, callEnd, hfirst, hconcludes,
      hconcludes.runEnds hfirst huncancelled hlaunch, ?_⟩
    intro terms' world' duration' huncancelled' hlaunch' hnow hsame
    have hconcludes' := hconcludes.of_sameEvents hsame hfirst.event.begun_le
    have hfirst' := hsame.first hconcludes.le hfirst
    rw [← hnow] at hfirst'
    exact hconcludes'.runEnds hfirst' huncancelled' hlaunch'

/-- A process that goes on forever, also when it is killed. -/
def stubbornWorld : World where
  host := { cwd := .ofString "/work"
            files := [(.ofString "/bin/clang",
              { launches := [.started { duration := none, ignoresKill := true }] })] }

def brokenOffSoon : Terms := { limit := some ⟨"0.0", some 1⟩, abortAt := some 3 }

/-- The wait for a killed process is broken off. -/
theorem run_concludes_stubborn :
    RunEnds brokenOffSoon "clang" [] (.ofString "/work") stubbornWorld
      ⟨.error .aborted, true, 3⟩ := by
  have hevents : ∀ ending time,
      ({ duration := none, ignoresKill := true } : Behaviour).Event brokenOffSoon 0 ending time →
        ending = .timeout ⟨"0.0", some 1⟩ ∧ time = 1 ∨ ending = .abort ∧ time = 3 := by
    intro ending time h
    cases h with
    | exit hd => cases hd
    | cancel ht => cases ht
    | timeout hlimit hd =>
      cases hlimit
      cases hd
      exact .inl ⟨rfl, rfl⟩
    | abort ht =>
      cases ht
      exact .inr ⟨rfl, rfl⟩
  have huntied : ({ duration := none, ignoresKill := true } : Behaviour).Untied brokenOffSoon
      stubbornWorld.now := by
    intro ending other time h h' hne
    rcases hevents ending time h with ⟨rfl, rfl⟩ | ⟨rfl, rfl⟩ <;>
      rcases hevents other _ h' with ⟨rfl, ht⟩ | ⟨rfl, ht⟩ <;>
      first | exact absurd rfl hne | cases ht
  obtain ⟨hnone, -⟩ | ⟨ending, time, callEnd, hfirst, hconcludes, hends, -⟩ :=
    (run_concludes brokenOffSoon "clang" [] (.ofString "/work") stubbornWorld).2 rfl _
      (by decide +kernel) huntied
  · exact absurd (.abort rfl) (hnone .abort _)
  · rcases hevents ending time hfirst.event with ⟨rfl, rfl⟩ | ⟨rfl, rfl⟩
    · cases hconcludes with
      | killed _ hgoes => cases hgoes
      | outlived _ _ habort =>
        have hpatience : 5000 ≤ Ticks.ofMilliseconds 5000 :=
          Nat.le_mul_of_pos_right 5000 Ticks.perMillisecond_pos
        have hlate : 1 + Ticks.ofMilliseconds 5000 ≤ 3 := habort 3 rfl (by decide)
        exact absurd (Nat.le_trans (Nat.le_trans hpatience (Nat.le_add_left ..)) hlate) (by decide)
      | interrupted _ _ ht _ _ =>
        cases ht
        exact hends
    · rcases hfirst.before _ _ (.timeout rfl rfl) nofun with hlt | ⟨heq, -⟩
      · exact absurd hlt (by decide)
      · cases heq

end CompilerCommands
