import CompilerCommands.Proofs.Command.Positions

/-!
# The views of a tree agree

A walk meets the commands of a tree above one another first and side by side in order. What is
printed of a tree, and what is reported of it, is what is printed and reported of each command that
a walk meets, in that order.
-/

namespace CompilerCommands

/-! ## The order of a walk -/

/-- Stands above, or below an earlier job of a driver above both. -/
inductive Position.Precedes : Position → Position → Prop
  | above (here : Position) (n : Nat) (rest : Position) : Precedes here (here ++ n :: rest)
  | beside (here : Position) {i j : Nat} (h : i < j) (left right : Position) :
    Precedes (here ++ i :: left) (here ++ j :: right)

theorem Position.Precedes.ne {p q : Position} (h : Position.Precedes p q) : p ≠ q := by
  cases h with
  | above n rest => simp
  | beside here h left right =>
    simp only [ne_eq, List.append_cancel_left_eq, List.cons.injEq, not_and]
    omega

namespace Command

theorem exists_position_of_mem_walkFrom {here position : Position} {top : Command}
    (h : position ∈ (walkFrom here top).map Prod.fst) : ∃ rest, position = here ++ rest := by
  obtain ⟨⟨position, command⟩, hentry, rfl⟩ := List.mem_map.1 h
  obtain ⟨rest, hrest, -⟩ := (mem_walkFrom_iff here position command top).1 hentry
  exact ⟨rest, hrest⟩

theorem exists_position_of_mem_walkJobs {here position : Position} {first : Nat}
    {jobs : List Command} (h : position ∈ (walkJobs here first jobs).map Prod.fst) :
    ∃ n rest, first ≤ n ∧ position = here ++ n :: rest := by
  obtain ⟨⟨position, command⟩, hentry, rfl⟩ := List.mem_map.1 h
  obtain ⟨n, rest, hrest, -⟩ := (mem_walkJobs_iff here position command first jobs).1 hentry
  exact ⟨first + n, rest, Nat.le_add_right first n, hrest⟩

mutual

theorem pairwise_walkFrom (here : Position) : ∀ top : Command,
    ((walkFrom here top).map Prod.fst).Pairwise Position.Precedes
  | .job _ _ => List.pairwise_singleton _ _
  | .rustc _ _ => List.pairwise_singleton _ _
  | .driver kind call state jobs => by
    rw [walkFrom, List.map_cons]
    refine List.Pairwise.cons (fun position hmem => ?_) (pairwise_walkJobs here 0 jobs)
    obtain ⟨n, rest, -, rfl⟩ := exists_position_of_mem_walkJobs hmem
    exact .above here n rest

theorem pairwise_walkJobs (here : Position) (first : Nat) : ∀ jobs : List Command,
    ((walkJobs here first jobs).map Prod.fst).Pairwise Position.Precedes
  | [] => List.Pairwise.nil
  | next :: others => by
    rw [walkJobs, List.map_append, List.pairwise_append]
    refine ⟨pairwise_walkFrom (here ++ [first]) next, pairwise_walkJobs here (first + 1) others, ?_⟩
    intro position hmem later hlater
    obtain ⟨left, rfl⟩ := exists_position_of_mem_walkFrom hmem
    obtain ⟨n, right, hn, rfl⟩ := exists_position_of_mem_walkJobs hlater
    rw [List.append_assoc]
    exact .beside here hn left right

end

/-! ## What is printed -/

mutual

/-- Each command is printed as deep as the way to it is long. -/
theorem printedTree_eq_flatMap (here : Position) : ∀ top : Command,
    top.printedTree here.length =
      (walkFrom here top).flatMap fun (position, command) => command.printedLines position.length
  | .job _ _ => by simp [printedTree, walkFrom]
  | .rustc _ _ => by simp [printedTree, walkFrom]
  | .driver kind call state jobs => by
    rw [printedTree, walkFrom, List.flatMap_cons, printedJobs_eq_flatMap here 0 jobs]

theorem printedJobs_eq_flatMap (here : Position) (first : Nat) : ∀ jobs : List Command,
    printedJobs (here.length + 1) jobs =
      (walkJobs here first jobs).flatMap fun (position, command) =>
        command.printedLines position.length
  | [] => rfl
  | next :: others => by
    have hnext := printedTree_eq_flatMap (here ++ [first]) next
    rw [List.length_append, List.length_singleton] at hnext
    rw [printedJobs, walkJobs, List.flatMap_append, hnext,
      printedJobs_eq_flatMap here (first + 1) others]

end

end Command

/-! ## What is reported -/

structure ReportRow where
  typeName : String
  executable : String
  args : List String
  output : Option String
  deriving DecidableEq, Repr

mutual

/-- The rows of a report, those of a driver before those of its jobs. -/
def Report.rows : Report → List ReportRow
  | .node typeName executable args _ output _ jobs =>
    ⟨typeName, executable, args, output⟩ :: rowsOfJobs jobs

def Report.rowsOfJobs : List Report → List ReportRow
  | [] => []
  | first :: rest => first.rows ++ rowsOfJobs rest

end

namespace Command

def row (command : Command) : ReportRow :=
  ⟨command.typeName, command.call.executable, command.args, command.outputPath⟩

mutual

theorem rows_report : ∀ command : Command, command.report.rows = command.nodes.map row
  | .job _ _ => rfl
  | .rustc _ _ => rfl
  | .driver kind call state jobs => by
    rw [report, reportWith, Report.rows, rowsOfJobs_reportJobs jobs, nodes_eq, List.map_cons]
    rfl

theorem rowsOfJobs_reportJobs : ∀ jobs : List Command,
    Report.rowsOfJobs (reportJobs jobs) = (jobs.flatMap nodes).map row
  | [] => rfl
  | next :: others => by
    rw [reportJobs, Report.rowsOfJobs, rows_report next, rowsOfJobs_reportJobs others,
      List.flatMap_cons, List.map_append]

end

end Command

end CompilerCommands
