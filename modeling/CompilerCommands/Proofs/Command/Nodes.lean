import CompilerCommands.Command.Tree

/-!
# The commands of a tree

Which commands a walk meets, and in what order, does not depend on where it begins: a driver comes
before the commands of its jobs, and these come one job after another.
-/

namespace CompilerCommands

namespace Command

def nodes (root : Command) : List Command := root.walk.map Prod.snd

mutual

theorem map_snd_walkFrom (here : Position) :
    ∀ command : Command, (walkFrom here command).map Prod.snd = command.nodes
  | .job _ _ => rfl
  | .rustc _ _ => rfl
  | .driver kind call state jobs => by
    rw [nodes, walk, walkFrom, walkFrom, List.map_cons, List.map_cons, map_snd_walkJobs here,
      map_snd_walkJobs []]

theorem map_snd_walkJobs (here : Position) (n : Nat) :
    ∀ jobs : List Command, (walkJobs here n jobs).map Prod.snd = jobs.flatMap nodes
  | [] => rfl
  | first :: rest => by
    rw [walkJobs, List.map_append, map_snd_walkFrom (here ++ [n]) first,
      map_snd_walkJobs here (n + 1) rest, List.flatMap_cons]

end

theorem nodes_eq (command : Command) : command.nodes = command :: command.jobs.flatMap nodes := by
  rw [nodes, walk, walkFrom_eq, List.map_cons, map_snd_walkJobs]

/-! ## Drivers -/

def driver? : Command → Option (Driver × Invocation)
  | driver kind call _ _ => some (kind, call)
  | _ => none

def drivers (root : Command) : List (Driver × Invocation) :=
  root.walk.filterMap fun (_, command) => command.driver?

theorem drivers_eq_filterMap (root : Command) : root.drivers = root.nodes.filterMap driver? := by
  rw [drivers, nodes, List.filterMap_map]
  rfl

theorem filterMap_flatMap_nodes (jobs : List Command) :
    (jobs.flatMap nodes).filterMap driver? = jobs.flatMap drivers := by
  have hdrivers : drivers = fun root => root.nodes.filterMap driver? :=
    funext drivers_eq_filterMap
  rw [List.filterMap_flatMap, hdrivers]

@[simp] theorem drivers_driver (kind : Driver) (call : Invocation) (state : DiscoveryState)
    (jobs : List Command) :
    (driver kind call state jobs).drivers = (kind, call) :: jobs.flatMap drivers := by
  rw [drivers_eq_filterMap, nodes_eq, List.filterMap_cons, filterMap_flatMap_nodes]
  rfl

end Command

end CompilerCommands
