import CompilerCommands.Proofs.Command.Nodes
import Mathlib.Data.List.Induction

/-!
# Positions in a tree

A position leads from the root to one command. A walk meets every command of the tree at the
position that leads to it, so what holds of the root and passes from a driver to its jobs holds of
all that a walk meets.
-/

namespace CompilerCommands

namespace Command

/-- The command that a position leads to. -/
def at? (root : Command) : Position → Option Command
  | [] => some root
  | n :: rest => root.jobs[n]?.bind (·.at? rest)

@[simp] theorem at?_nil (root : Command) : root.at? [] = some root := rfl

theorem at?_cons (root : Command) (n : Nat) (rest : Position) :
    root.at? (n :: rest) = root.jobs[n]?.bind (·.at? rest) := rfl

theorem at?_append (root : Command) (here there : Position) :
    root.at? (here ++ there) = (root.at? here).bind (·.at? there) := by
  induction here generalizing root with
  | nil => rfl
  | cons n rest ih =>
    rw [List.cons_append, at?_cons, at?_cons]
    cases root.jobs[n]? with
    | none => rfl
    | some job => exact ih job

theorem at?_concat (root : Command) (here : Position) (n : Nat) :
    root.at? (here ++ [n]) = (root.at? here).bind (·.jobs[n]?) := by
  have hstep : ∀ command : Command, command.at? [n] = command.jobs[n]? := fun command => by
    rw [at?_cons]
    cases command.jobs[n]? <;> rfl
  rw [at?_append]
  simp only [hstep]

theorem mem_walkFrom_of_no_jobs {here position : Position} {command top : Command}
    (hwalk : walkFrom here top = [(here, top)]) (hjobs : top.jobs = []) :
    (position, command) ∈ walkFrom here top ↔
      ∃ rest, position = here ++ rest ∧ top.at? rest = some command := by
  rw [hwalk, List.mem_singleton]
  constructor
  · intro h
    cases h
    exact ⟨[], (List.append_nil _).symm, rfl⟩
  · rintro ⟨rest, rfl, h⟩
    cases rest with
    | nil =>
      cases h
      rw [List.append_nil]
    | cons n rest =>
      rw [at?_cons, hjobs] at h
      cases h

mutual

theorem mem_walkFrom_iff (here position : Position) (command : Command) : ∀ top : Command,
    (position, command) ∈ walkFrom here top ↔
      ∃ rest, position = here ++ rest ∧ top.at? rest = some command
  | .job tool call => mem_walkFrom_of_no_jobs rfl rfl
  | .rustc call flags => mem_walkFrom_of_no_jobs rfl rfl
  | .driver kind call state jobs => by
    rw [walkFrom, List.mem_cons, mem_walkJobs_iff here position command 0 jobs]
    constructor
    · rintro (h | ⟨n, rest, rfl, h⟩)
      · cases h
        exact ⟨[], (List.append_nil _).symm, rfl⟩
      · exact ⟨n :: rest, by rw [Nat.zero_add], h⟩
    · rintro ⟨rest, rfl, h⟩
      cases rest with
      | nil =>
        cases h
        exact .inl (by rw [List.append_nil])
      | cons n rest => exact .inr ⟨n, rest, by rw [Nat.zero_add], h⟩

theorem mem_walkJobs_iff (here position : Position) (command : Command) (first : Nat) :
    ∀ jobs : List Command, (position, command) ∈ walkJobs here first jobs ↔
      ∃ n rest, position = here ++ (first + n) :: rest ∧
        jobs[n]?.bind (·.at? rest) = some command
  | [] => by simp [walkJobs]
  | next :: others => by
    rw [walkJobs, List.mem_append, mem_walkFrom_iff (here ++ [first]) position command next,
      mem_walkJobs_iff here position command (first + 1) others]
    constructor
    · rintro (⟨rest, rfl, h⟩ | ⟨n, rest, rfl, h⟩)
      · exact ⟨0, rest, by rw [List.append_assoc, Nat.add_zero]; rfl, h⟩
      · exact ⟨n + 1, rest, by rw [Nat.add_assoc, Nat.add_comm 1], h⟩
    · rintro ⟨n, rest, rfl, h⟩
      cases n with
      | zero => exact .inl ⟨rest, by rw [List.append_assoc, Nat.add_zero]; rfl, h⟩
      | succ n => exact .inr ⟨n, rest, by rw [Nat.add_assoc, Nat.add_comm 1], h⟩

end

theorem mem_walk_iff {root command : Command} {position : Position} :
    (position, command) ∈ root.walk ↔ root.at? position = some command := by
  rw [walk, mem_walkFrom_iff]
  constructor
  · rintro ⟨rest, rfl, h⟩
    exact h
  · intro h
    exact ⟨position, rfl, h⟩

/-- What holds of the root, and of each job of a command of which it holds, holds of every command
of the tree. -/
theorem walk_induction {root : Command} {motive : Position → Command → Prop}
    (top : motive [] root)
    (below : ∀ here command n next, (here, command) ∈ root.walk → command.jobs[n]? = some next →
      motive here command → motive (here ++ [n]) next) :
    ∀ entry ∈ root.walk, motive entry.1 entry.2 := by
  rintro ⟨position, command⟩ hentry
  rw [mem_walk_iff] at hentry
  induction position using List.reverseRecOn generalizing command with
  | nil =>
    cases hentry
    exact top
  | append_singleton here n ih =>
    rw [at?_concat, Option.bind_eq_some_iff] at hentry
    obtain ⟨driver, hdriver, hnext⟩ := hentry
    exact below here driver n command (mem_walk_iff.2 hdriver) hnext (ih driver hdriver)

/-! ## Drivers at their positions -/

/-- A driver of a tree, where it stands. -/
structure Node where
  position : Position
  kind : Driver
  call : Invocation
  state : DiscoveryState
  jobs : List Command

def Node.run (node : Node) : Driver × Invocation := (node.kind, node.call)

def node? : Position × Command → Option Node
  | (here, driver kind call state jobs) => some ⟨here, kind, call, state, jobs⟩
  | _ => none

def driverNodes (root : Command) : List Node := root.walk.filterMap node?

/-- The drivers of the jobs of `here` from the number `n` on. -/
def driverNodesOf (here : Position) (n : Nat) (jobs : List Command) : List Node :=
  (walkJobs here n jobs).filterMap node?

@[simp] theorem driverNodesOf_nil (here : Position) (n : Nat) : driverNodesOf here n [] = [] := rfl

theorem filterMap_node?_driver (here : Position) (kind : Driver) (call : Invocation)
    (state : DiscoveryState) (jobs : List Command) :
    (walkFrom here (driver kind call state jobs)).filterMap node? =
      ⟨here, kind, call, state, jobs⟩ :: driverNodesOf here 0 jobs := rfl

theorem driverNodesOf_cons (here : Position) (n : Nat) (next : Command) (others : List Command) :
    driverNodesOf here n (next :: others) =
      (walkFrom (here ++ [n]) next).filterMap node? ++ driverNodesOf here (n + 1) others := by
  rw [driverNodesOf, walkJobs, List.filterMap_append, driverNodesOf]

theorem map_run_filterMap_node? (entries : List (Position × Command)) :
    (entries.filterMap node?).map Node.run =
      entries.filterMap fun (_, command) => command.driver? := by
  rw [List.map_filterMap]
  congr 1
  funext ⟨position, command⟩
  cases command <;> rfl

theorem map_run_walkFrom (here : Position) (command : Command) :
    ((walkFrom here command).filterMap node?).map Node.run = command.drivers := by
  rw [map_run_filterMap_node?, drivers_eq_filterMap, ← map_snd_walkFrom here, List.filterMap_map]
  rfl

theorem map_run_driverNodes (root : Command) : root.driverNodes.map Node.run = root.drivers :=
  map_run_walkFrom [] root

theorem mem_driverNodes {root : Command} {node : Node} :
    node ∈ root.driverNodes ↔
      (node.position, driver node.kind node.call node.state node.jobs) ∈ root.walk := by
  rw [driverNodes, List.mem_filterMap]
  constructor
  · rintro ⟨⟨position, command⟩, hentry, hnode⟩
    cases command <;> cases hnode
    exact hentry
  · intro hentry
    exact ⟨_, hentry, rfl⟩

end Command

end CompilerCommands
