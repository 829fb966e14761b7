import CompilerCommands.Proofs.Discovery.Provenance

/-!
# Discovering jobs again

What a discovery comes to does not depend on what earlier ones left on the driver. A failure changes
nothing, a cancellation is noted beside what is there, and jobs replace the jobs before, but no
outcome takes an earlier note away. So a driver agrees with itself as long as no jobs stand beside a
note of an earlier cancellation or failure.
-/

namespace CompilerCommands

/-! ## Outcomes -/

inductive DiscoveryOutcome where
  | failed
  | cancelled
  | planned (jobs : List Command)

namespace DiscoveryOutcome

/-- The outcome of discovering the jobs of a driver for the first time. -/
def ofResult : Except Failure Discovered → DiscoveryOutcome
  | .error _ => failed
  | .ok found => if found.state.cancelled then cancelled else planned found.jobs

def isCancelled : DiscoveryOutcome → Bool
  | cancelled => true
  | _ => false

def planned? : DiscoveryOutcome → Option (List Command)
  | planned jobs => some jobs
  | _ => none

end DiscoveryOutcome

/-- A discovery as it is found on a driver that has been left with `state` and `jobs`. -/
def Discovered.onto (state : DiscoveryState) (jobs : List Command) (found : Discovered) :
    Discovered :=
  if found.state.cancelled then ⟨{ state with cancelled := true }, jobs⟩ else ⟨state, found.jobs⟩

section

variable (terms : Terms) (here : Position) (kind : Driver) (call : Invocation)
  (state : DiscoveryState) (jobs : List Command) (world : World)

/-- The same happens whatever has been left on the driver. -/
theorem discoverWith_eq_onto (discover : Discoverer) :
    discoverWith discover terms here kind call state jobs world =
      (discoverWith discover terms here kind call {} [] world).map
        (Except.map (Discovered.onto state jobs)) id := by
  unfold discoverWith
  cases world.host.findExecutable? call.executable call.workingDir terms.extraEnv with
  | none => rfl
  | some program =>
    simp only
    cases discoverJobs terms (.driver kind) program.toString call.args call.workingDir world with
    | mk result mid =>
      cases result with
      | error failure => rfl
      | ok planned =>
        cases planned with
        | none => rfl
        | some planned =>
          simp only
          cases jobCommands discover here call 0 planned mid with
          | mk result last => cases result <;> rfl

theorem discoverWithin_eq_onto (depth : Nat) :
    discoverWithin terms depth here kind call state jobs world =
      (discoverWithin terms depth here kind call {} [] world).map
        (Except.map (Discovered.onto state jobs)) id := by
  cases depth with
  | zero => rfl
  | succ depth => exact discoverWith_eq_onto terms here kind call state jobs world _

end

theorem Leaves.consistent {terms : Terms} {world : World} {here : Position}
    {node : Driver × Invocation} {state : DiscoveryState} {planned : List Job}
    (h : Leaves terms world here node state planned) :
    (state.cancelled = true → planned = []) ∧ (state.error ≠ none → planned = []) ∧
      (state.cancelled = true → state.error = none) := by
  cases h with
  | planned h => exact ⟨nofun, fun herror => absurd rfl herror, nofun⟩
  | cancelled h => exact ⟨fun _ => rfl, fun _ => rfl, fun _ => rfl⟩
  | _ => exact ⟨nofun, fun _ => rfl, nofun⟩

/-! ## One driver through several calls -/

/-- A call to discover the jobs of a driver: how many levels of drivers its stack holds, the terms,
and the world in which it is made. -/
structure Rediscovery where
  depth : Nat
  terms : Terms
  world : World

namespace Command.Node

/-- What a call to discover the jobs of a driver again comes to. -/
def discovery (node : Node) (again : Rediscovery) : Except Failure Discovered × World :=
  discoverWithin again.terms again.depth node.position node.kind node.call node.state node.jobs
    again.world

/-- The driver after a call. A call that fails changes nothing. -/
def rediscover (node : Node) (again : Rediscovery) : Node :=
  match (node.discovery again).1 with
  | .ok found => { node with state := found.state, jobs := found.jobs }
  | .error _ => node

def command (node : Node) : Command := .driver node.kind node.call node.state node.jobs

/-- What a call comes to, whatever has been left on the driver. -/
def outcome (node : Node) (again : Rediscovery) : DiscoveryOutcome :=
  .ofResult (discovery { node with state := {}, jobs := [] } again).1

def add (node : Node) : DiscoveryOutcome → Node
  | .failed => node
  | .cancelled => { node with state := { node.state with cancelled := true } }
  | .planned jobs => { node with jobs := jobs }

/-- What is noted of the discovery agrees with the jobs: a driver whose discovery was cancelled or
failed has none, and it was not both. -/
structure Consistent (node : Node) : Prop where
  cancelled : node.state.cancelled = true → node.jobs = []
  failed : node.state.error ≠ none → node.jobs = []
  exclusive : node.state.cancelled = true → node.state.error = none

/-- The driver stands in a created tree, or nothing has been discovered of it yet. The root that a
strict creation fails with is of the second kind. -/
inductive Begun : Node → Prop
  | created {depth : Nat} {terms : Terms} {strict : Bool} {line : String} {dir : Path}
      {world after : World} {command : Command} {node : Node}
      (h : createWithin depth terms strict line dir world = (.ok command, after))
      (hnode : node ∈ command.driverNodes) : Begun node
  | undiscovered (position : Position) (kind : Driver) (call : Invocation) :
      Begun ⟨position, kind, call, {}, []⟩

variable {node : Node} {again : Rediscovery} {failure : Failure} {found : Discovered}

theorem rediscover_of_ok (h : (node.discovery again).1 = .ok found) :
    node.rediscover again = { node with state := found.state, jobs := found.jobs } := by
  rw [rediscover, h]

theorem rediscover_of_error (h : (node.discovery again).1 = .error failure) :
    node.rediscover again = node := by
  rw [rediscover, h]

theorem rediscover_eq_add (node : Node) (again : Rediscovery) :
    node.rediscover again = node.add (node.outcome again) := by
  unfold rediscover outcome discovery
  rw [discoverWithin_eq_onto]
  cases discoverWithin again.terms again.depth node.position node.kind node.call {} []
    again.world with
  | mk result after =>
    cases result with
    | error failure => rfl
    | ok found =>
      obtain ⟨⟨cancelled, error⟩, jobs⟩ := found
      cases cancelled <;> rfl

theorem outcome_add (node : Node) (outcome : DiscoveryOutcome) (again : Rediscovery) :
    (node.add outcome).outcome again = node.outcome again := by
  cases outcome <;> rfl

theorem foldl_rediscover (node : Node) (calls : List Rediscovery) :
    calls.foldl rediscover node = (calls.map node.outcome).foldl add node := by
  induction calls generalizing node with
  | nil => rfl
  | cons first rest ih =>
    rw [List.foldl_cons, ih, rediscover_eq_add, List.map_cons, List.foldl_cons]
    congr 1
    exact List.map_congr_left fun again _ => outcome_add node _ again

/-- Of several outcomes, the last jobs stay, and any cancellation. -/
theorem foldl_add (node : Node) (outcomes : List DiscoveryOutcome) :
    outcomes.foldl add node =
      { node with
        state :=
          { node.state with
            cancelled := node.state.cancelled || outcomes.any DiscoveryOutcome.isCancelled }
        jobs := (outcomes.filterMap DiscoveryOutcome.planned?).getLast?.getD node.jobs } := by
  induction outcomes generalizing node with
  | nil => simp
  | cons first rest ih =>
    rw [List.foldl_cons, ih]
    cases first with
    | failed => simp [add, DiscoveryOutcome.isCancelled, DiscoveryOutcome.planned?]
    | cancelled => simp [add, DiscoveryOutcome.isCancelled, DiscoveryOutcome.planned?]
    | planned jobs =>
      simp [add, DiscoveryOutcome.isCancelled, DiscoveryOutcome.planned?, List.getLast?_cons]

theorem LeftIn.consistent {terms : Terms} {world : World} (h : node.LeftIn terms world) :
    node.Consistent := by
  obtain ⟨planned, hleaves, hcalls⟩ := h
  obtain ⟨hcancelled, hfailed, hexclusive⟩ := hleaves.consistent
  have hjobs : planned = [] → node.jobs = [] := by
    rintro rfl
    exact List.map_eq_nil_iff.1 hcalls
  exact ⟨fun h => hjobs (hcancelled h), fun h => hjobs (hfailed h), hexclusive⟩

theorem Begun.consistent (h : node.Begun) : node.Consistent := by
  cases h with
  | created h hnode =>
    obtain ⟨mid, hleft⟩ := (asLeft_createWithin h).exists_leftIn hnode
    exact hleft.consistent
  | undiscovered position kind call => exact ⟨fun _ => rfl, fun _ => rfl, fun _ => rfl⟩

theorem rediscoverWithin_command (hroot : node.position = []) (again : Rediscovery) :
    node.command.rediscoverWithin again.depth again.terms again.world =
      some ((node.discovery again).map
        (Except.map fun _ => (node.rediscover again).command) id) := by
  obtain ⟨position, kind, call, state, jobs⟩ := node
  obtain rfl : position = [] := hroot
  simp only [command, Command.rediscoverWithin, discovery, rediscover]
  obtain ⟨result, after⟩ :=
    discoverWithin again.terms again.depth [] kind call state jobs again.world
  cases result <;> rfl

end Command.Node

/-- A call for a root fails and changes nothing, or results in the root as it is then. -/
theorem rediscoverWithin_eq_rediscover (again : Rediscovery) {root : Command.Node}
    (hroot : root.position = []) :
    ∃ result after, root.command.rediscoverWithin again.depth again.terms again.world =
        some (result, after) ∧
      ((∃ failure, result = .error failure) ∧ root.rediscover again = root ∨
        result = .ok (root.rediscover again).command) := by
  rw [root.rediscoverWithin_command hroot]
  cases hdiscovery : root.discovery again with
  | mk result after =>
    cases result with
    | error failure =>
      have hsame := Command.Node.rediscover_of_error (congrArg Prod.fst hdiscovery)
      exact ⟨_, after, rfl, .inl ⟨⟨failure, rfl⟩, hsame⟩⟩
    | ok found => exact ⟨_, after, rfl, .inr rfl⟩

/-- After its creation, a driver agrees with itself. After any calls to discover its jobs again, in
whatever worlds and on whatever terms, it has the jobs that were planned last, and the notes of its
creation and of every cancellation since. So it agrees with itself exactly if the last planned jobs
are none whenever anything has been noted, and no call has been cancelled after a failed creation.
For a root, the calls are those of `Command.rediscoverWithin`. -/
theorem consistent_foldl_rediscover_iff {node : Command.Node} (h : node.Begun) :
    node.Consistent ∧
    (∀ calls : List Rediscovery,
      let later := calls.foldl Command.Node.rediscover node
      let planned := (calls.filterMap fun again => (node.outcome again).planned?).getLast?
      let cancelled := ∃ again ∈ calls, (node.outcome again).isCancelled = true
      later.jobs = planned.getD node.jobs ∧
      later.state.error = node.state.error ∧
      (later.state.cancelled = true ↔ node.state.cancelled = true ∨ cancelled) ∧
      (later.Consistent ↔
        (node.state ≠ {} ∨ cancelled → later.jobs = []) ∧
        (node.state.error ≠ none → ¬cancelled))) ∧
    ∀ (root : Command.Node) again, root.position = [] →
      ∃ result after, root.command.rediscoverWithin again.depth again.terms again.world =
          some (result, after) ∧
        ((∃ failure, result = .error failure) ∧ root.rediscover again = root ∨
          result = .ok (root.rediscover again).command) := by
  have hbegun := h.consistent
  refine ⟨hbegun, fun calls => ?_, fun root again => rediscoverWithin_eq_rediscover again⟩
  intro later planned cancelled
  have hlater : later = _ :=
    (Command.Node.foldl_rediscover node calls).trans (Command.Node.foldl_add node _)
  have hjobs : later.jobs = planned.getD node.jobs := by
    rw [hlater, List.filterMap_map]
    rfl
  have herror : later.state.error = node.state.error := by rw [hlater]
  have hcancelled : later.state.cancelled = true ↔ node.state.cancelled = true ∨ cancelled := by
    rw [hlater]
    simp [cancelled]
  have hnoted : node.state ≠ {} ↔ node.state.cancelled = true ∨ node.state.error ≠ none := by
    obtain ⟨cancelled, error⟩ := node.state
    cases cancelled <;> simp
  refine ⟨hjobs, herror, hcancelled, fun hlater => ⟨?_, fun hfailed hcancel => ?_⟩,
    fun ⟨hnone, hexclusive⟩ => ⟨fun hcancel => ?_, fun hfailed => ?_, fun hcancel => ?_⟩⟩
  · rintro (hnote | hcancel)
    · obtain hcancel | hfailed := hnoted.1 hnote
      · exact hlater.cancelled (hcancelled.2 (.inl hcancel))
      · exact hlater.failed (herror ▸ hfailed)
    · exact hlater.cancelled (hcancelled.2 (.inr hcancel))
  · exact hfailed (herror ▸ hlater.exclusive (hcancelled.2 (.inr hcancel)))
  · exact hnone ((hcancelled.1 hcancel).imp (fun hnote => hnoted.2 (.inl hnote)) id)
  · exact hnone (.inl (hnoted.2 (.inr (herror ▸ hfailed))))
  · rw [herror]
    obtain hnote | hcancel := hcancelled.1 hcancel
    · exact hbegun.exclusive hnote
    · exact Classical.not_not.1 fun hfailed => hexclusive hfailed hcancel

/-! ## A driver that is made to disagree with itself -/

def linkingWorld : World where
  host := { cwd := .ofString "/work", files := [(.ofString "/bin/clang", printing [" ld a.o"])] }

def failingWorld : World where
  host := { cwd := .ofString "/work"
            files := [(.ofString "/bin/clang", { launches := [.started { status := 1 }] })] }

/-- A call with a token that has been cancelled. -/
def cancelledCall : Rediscovery :=
  ⟨2, { cancellable := true }, { linkingWorld with cancelled := true }⟩

theorem exists_begun {α : Type} (world : World) (view : Command.Node → α) (seen : α)
    (h : (createWithin 2 {} false "clang a.c" (.ofString "/work") world).1.toOption.map
      (fun command => command.driverNodes.map view) = some [seen]) :
    ∃ node : Command.Node, node.Begun ∧ view node = seen := by
  cases hmade : createWithin 2 {} false "clang a.c" (.ofString "/work") world with
  | mk result after =>
    rw [hmade] at h
    cases result with
    | error failure => cases h
    | ok command =>
      obtain ⟨node, others, hnodes, hview, -⟩ := List.map_eq_cons_iff.1 (Option.some.inj h)
      refine ⟨node, .created hmade ?_, hview⟩
      rw [hnodes]
      exact List.mem_cons_self ..

theorem consistent_foldl_rediscover_linking :
    ∃ node : Command.Node, node.Begun ∧
      ([⟨2, {}, failingWorld⟩, ⟨2, {}, linkingWorld⟩].foldl Command.Node.rediscover
        node).Consistent := by
  obtain ⟨node, hnode, hview⟩ := exists_begun linkingWorld
    (fun node => (node.state, [⟨2, {}, failingWorld⟩, ⟨2, {}, linkingWorld⟩].map fun again =>
      (node.outcome again).isCancelled))
    ({}, [false, false]) (by decide +kernel)
  obtain ⟨hstate, hcalls⟩ := Prod.mk.inj hview
  obtain ⟨-, hlater, -⟩ := consistent_foldl_rediscover_iff hnode
  obtain ⟨-, -, -, hconsistent⟩ := hlater [⟨2, {}, failingWorld⟩, ⟨2, {}, linkingWorld⟩]
  refine ⟨node, hnode, hconsistent.2 ⟨?_, ?_⟩⟩
  · rintro (hnoted | hcancelled)
    · exact absurd hstate hnoted
    · simp_all
  · intro herror
    rw [hstate] at herror
    exact absurd rfl herror

/-- A cancelled call does not take the jobs away that were planned before, and a call that plans
jobs does not take the failure of the creation away. -/
theorem rediscover_not_consistent :
    (∃ node : Command.Node, node.Begun ∧ (node.rediscover cancelledCall).state.cancelled = true ∧
      (node.rediscover cancelledCall).jobs.map (·.call.words) = [["ld", "a.o"]] ∧
      ¬(node.rediscover cancelledCall).Consistent) ∧
    ∃ node : Command.Node, node.Begun ∧
      (node.rediscover ⟨2, {}, linkingWorld⟩).state.error.isSome = true ∧
      (node.rediscover ⟨2, {}, linkingWorld⟩).jobs.map (·.call.words) = [["ld", "a.o"]] ∧
      ¬(node.rediscover ⟨2, {}, linkingWorld⟩).Consistent := by
  constructor
  · obtain ⟨node, hnode, hview⟩ := exists_begun linkingWorld
      (fun node => ((node.rediscover cancelledCall).state.cancelled,
        (node.rediscover cancelledCall).jobs.map (·.call.words)))
      (true, [["ld", "a.o"]]) (by decide +kernel)
    obtain ⟨hcancelled, hjobs⟩ := Prod.mk.inj hview
    refine ⟨node, hnode, hcancelled, hjobs, fun h => ?_⟩
    rw [h.cancelled hcancelled] at hjobs
    cases hjobs
  · obtain ⟨node, hnode, hview⟩ := exists_begun failingWorld
      (fun node => ((node.rediscover ⟨2, {}, linkingWorld⟩).state.error.isSome,
        (node.rediscover ⟨2, {}, linkingWorld⟩).jobs.map (·.call.words)))
      (true, [["ld", "a.o"]]) (by decide +kernel)
    obtain ⟨herror, hjobs⟩ := Prod.mk.inj hview
    refine ⟨node, hnode, herror, hjobs, fun h => ?_⟩
    rw [h.failed (Option.isSome_iff_ne_none.1 herror)] at hjobs
    cases hjobs

end CompilerCommands
