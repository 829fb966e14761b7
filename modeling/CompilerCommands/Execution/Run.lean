import CompilerCommands.Execution.World

/-!
# Running a process

A process runs until it ends, its call is cancelled, its time is up, or its call is broken off,
whichever comes first. In the last three cases it is killed, and it gets five seconds to go.
-/

namespace CompilerCommands

inductive RunResult where
  | finished (output : String) (status : Int)
  | cancelled
  | refused (error : StartError)
  | timedOut (limit : TimeLimit)
  | aborted
  /-- Nothing ends the waiting. -/
  | endless
  deriving DecidableEq, Repr

/-! ## What comes first -/

/-- What ends the waiting for a process. -/
inductive Ending where
  | exit
  | cancel
  | timeout (limit : TimeLimit)
  | abort
  deriving DecidableEq, Repr

/-- What comes of a process that was killed because of an ending. -/
def Ending.killedResult : Ending → RunResult
  | timeout limit => .timedOut limit
  | abort => .aborted
  | exit | cancel => .cancelled

/-- What will end the waiting, and when. What stands earlier comes first at the same time. -/
def endings (terms : Terms) (world : World) (behaviour : Behaviour) : List (Ending × Ticks) :=
  (behaviour.duration.map fun d => (Ending.exit, world.now + d)).toList ++
    (terms.cancelTime?.map fun t => (Ending.cancel, max world.now t)).toList ++
    (terms.limit.bind fun limit =>
      limit.ticks.map fun d => (Ending.timeout limit, world.now + d)).toList ++
    (terms.abortAt.map fun t => (Ending.abort, max world.now t)).toList

/-- The earliest of several events, the first of those at the same time. -/
def earliest? {α : Type} : List (α × Ticks) → Option (α × Ticks)
  | [] => none
  | event :: rest =>
    match earliest? rest with
    | some later => if later.2 < event.2 then some later else some event
    | none => some event

theorem earliest?_eq_none_iff {α : Type} {events : List (α × Ticks)} :
    earliest? events = none ↔ events = [] := by
  cases events with
  | nil => simp [earliest?]
  | cons event rest =>
    simp only [earliest?, reduceCtorEq, iff_false]
    split
    · split <;> simp
    · simp

theorem mem_of_earliest? {α : Type} {events : List (α × Ticks)} {e : α × Ticks}
    (h : earliest? events = some e) : e ∈ events := by
  induction events with
  | nil => simp [earliest?] at h
  | cons event rest ih =>
    rw [earliest?] at h
    split at h
    · next later hl =>
      split at h
      · exact List.mem_cons_of_mem _ (ih (by rw [hl]; exact h))
      · simp_all
    · simp_all

theorem earliest?_le {α : Type} {events : List (α × Ticks)} {e d : α × Ticks}
    (h : earliest? events = some e) (hd : d ∈ events) : e.2 ≤ d.2 := by
  induction events generalizing e with
  | nil => simp at hd
  | cons event rest ih =>
    rw [earliest?] at h
    split at h
    · next later hl =>
      split at h <;> cases h <;> rcases List.mem_cons.1 hd with rfl | hd'
      · next hlt => exact Nat.le_of_lt hlt
      · exact ih hl hd'
      · exact Nat.le_refl _
      · next hge => exact Nat.le_trans (Nat.le_of_not_lt hge) (ih hl hd')
    · next hn =>
      cases h
      have : rest = [] := earliest?_eq_none_iff.1 hn
      subst this
      simp only [List.mem_singleton] at hd
      simp [hd]

/-! ## Killing -/

/-- How long a killed process gets to go. -/
def killPatience : Ticks := Ticks.ofMilliseconds 5000

/-- Waits for a killed process to go. The call may be broken off meanwhile, unless it has been
already: then the result is `aborted`, and else it is `result`. -/
def awaitKilled (terms : Terms) (behaviour : Behaviour) (result : RunResult) (world : World) :
    RunResult × World :=
  if behaviour.ignoresKill then
    let last := world.now + killPatience
    match terms.abortAt with
    | some t =>
      if t < last ∧ result ≠ .aborted then (.aborted, world.advance terms (max world.now t))
      else (result, world.advance terms last)
    | none => (result, world.advance terms last)
  else (result, world)

/-! ## Running -/

/-- Waits for a process: the result, whether the process was killed, and the world after it. -/
def await (terms : Terms) (behaviour : Behaviour) (world : World) : RunResult × Bool × World :=
  match earliest? (endings terms world behaviour) with
  | none => (.endless, false, world)
  | some (.exit, time) =>
    (.finished behaviour.text behaviour.status, false, world.advance terms time)
  | some (ending, time) =>
    let (result, after) :=
      awaitKilled terms behaviour ending.killedResult (world.advance terms time)
    (result, !behaviour.escapesKill, after)

/-- What starting the file at `place` does, and the world after it. -/
def World.start (world : World) (place : Path) : Launch × World :=
  let launch := match world.host.file? place with
    | some file => file.launch (world.host.startCount place)
    | none => .started {}
  (launch, { world with host := world.host.countStart place })

def World.attempted (world : World) (terms : Terms) (time : Ticks) (words : List String)
    (dir : Path) (killed : Bool) : World :=
  { world with
    attempts := world.attempts ++ [⟨time, words, dir, world.childEnv terms, killed⟩] }

/-- Starts a process for `words` in the directory `dir` and waits for it. -/
def spawn (terms : Terms) (words : List String) (dir : Path) (world : World) :
    RunResult × World :=
  let name := words.headD ""
  match world.host.resolve? name dir (world.childEnv terms) with
  | none =>
    (.refused (.notFound (Text.quoted name)), world.attempted terms world.now words dir false)
  | some place =>
    match world.start place with
    | (.refused error, started) =>
      (.refused error, started.attempted terms world.now words dir false)
    | (.started behaviour, started) =>
      let (result, killed, after) := await terms behaviour started
      (result, after.attempted terms world.now words dir killed)

/-- Runs a process unless the call has been cancelled before. -/
def run (terms : Terms) (words : List String) (dir : Path) (world : World) : RunResult × World :=
  if terms.cancellable && world.cancelled then (.cancelled, world)
  else spawn terms words dir world

theorem run_of_cancelled {terms : Terms} {world : World} (ht : terms.cancellable = true)
    (hw : world.cancelled = true) (words : List String) (dir : Path) :
    run terms words dir world = (.cancelled, world) := by
  simp [run, ht, hw]

end CompilerCommands
