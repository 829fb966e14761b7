import CompilerCommands.Proofs.Command.Views
import CompilerCommands.Proofs.Discovery.Provenance

/-!
# The views of a created tree

Each command of a created tree below the root names the driver above it as its parent. So the way
from the root to a command is as long as the way back along the parents, and that is how deep the
command is printed.
-/

namespace CompilerCommands

namespace Command

/-! ## The way back to the root -/

/-- Following the parents from a command, the root is reached in so many links. -/
inductive LinkedTo (root : Command) : Command → Nat → Prop
  | root (h : root.call.parent = none) : LinkedTo root root 0
  | job {here : Position} {driver command : Command} {links : Nat}
    (parent : command.call.parent = some here) (place : root.at? here = some driver)
    (h : LinkedTo root driver links) : LinkedTo root command (links + 1)

theorem LinkedTo.unique {root command : Command} {links other : Nat}
    (h : LinkedTo root command links) (h' : LinkedTo root command other) : links = other := by
  induction h generalizing other with
  | root hroot =>
    cases h' with
    | root => rfl
    | job hparent => cases hroot.symm.trans hparent
  | job hparent hplace _ ih =>
    cases h' with
    | root hroot => cases hroot.symm.trans hparent
    | job hparent' hplace' h' =>
      cases Option.some.inj (hparent.symm.trans hparent')
      cases Option.some.inj (hplace.symm.trans hplace')
      rw [ih h']

end Command

variable {terms : Terms} {world : World} {root : Command}

theorem AsLeft.linkedTo (h : AsLeft terms world root.driverNodes)
    (hroot : root.call.parent = none) :
    ∀ entry ∈ root.walk, Command.LinkedTo root entry.2 entry.1.length := by
  refine Command.walk_induction (motive := fun here command => root.LinkedTo command here.length)
    (.root hroot) fun here command n next hentry hnext hcommand => ?_
  obtain ⟨planned, hcall⟩ := h.call_eq_ofJob hentry (List.mem_of_getElem? hnext)
  have hparent : next.call.parent = some here := by rw [hcall]; rfl
  rw [List.length_append]
  exact .job hparent (Command.mem_walk_iff.1 hentry) hcommand

/-! ## Main result -/

/-- A walk of a created tree meets every command once, the upper ones first and those side by side
in the order of their jobs. Two texts are printed for each command that it meets, in that order,
indented by two spaces for each link of the way back to the root. And the rows of the report are
those of the commands in that order; quoting the words of a row gives the line that is printed. -/
theorem createWithin_views (depth : Nat) (terms : Terms) (strict : Bool) (line : String)
    (dir : Path) (world after : World) (root : Command)
    (h : createWithin depth terms strict line dir world = (.ok root, after)) :
    (∀ here command, (here, command) ∈ root.walk ↔ root.at? here = some command) ∧
    (root.walk.map Prod.fst).Nodup ∧
    (root.walk.map Prod.fst).Pairwise Position.Precedes ∧
    (∀ entry ∈ root.walk, ∀ links, root.LinkedTo entry.2 links ↔ links = entry.1.length) ∧
    (root.printedTree 0 = root.walk.flatMap fun (here, command) =>
      [Command.indent here.length ++ command.summary,
        Command.indent here.length ++ "  $ " ++ command.text]) ∧
    (root.report.rows = root.walk.map fun (_, command) =>
      ⟨command.typeName, command.call.executable, command.args, command.outputPath⟩) ∧
    root.report.rows.map (fun row => Shell.quote (row.executable :: row.args)) =
      root.walk.map fun (_, command) => command.text := by
  obtain ⟨-, -, -, hroot⟩ := invocation_createWithin h
  have hlinked := (asLeft_createWithin h).linkedTo hroot
  have horder := Command.pairwise_walkFrom [] root
  have hrows : root.report.rows = root.walk.map fun (_, command) => command.row := by
    rw [Command.rows_report, Command.nodes, List.map_map]
    rfl
  refine ⟨fun here command => Command.mem_walk_iff, horder.imp fun hlt => hlt.ne, horder,
    fun entry hentry links => ⟨fun hlinks => hlinks.unique (hlinked entry hentry), ?_⟩,
    Command.printedTree_eq_flatMap [] root, hrows, ?_⟩
  · rintro rfl
    exact hlinked entry hentry
  · rw [hrows, List.map_map]
    rfl

/-- nvcc plans a driver with a job of its own, and rustc. -/
def mixedWorld : World where
  host := { cwd := .ofString "/work"
            files := [(.ofString "/bin/nvcc", printing ["#$ gcc -c b.c", "#$ rustc -O 'c d.rs'"]),
              (.ofString "/bin/gcc", printing [" as -o b.o b.s"])] }

theorem createWithin_views_mixed :
    ∃ root after, createWithin 3 {} false "nvcc a.cu" (.ofString "/work") mixedWorld =
        (.ok root, after) ∧
      root.walk.map Prod.fst = [[], [0], [0, 0], [1]] ∧
      (∀ entry ∈ root.walk, root.LinkedTo entry.2 entry.1.length) ∧
      root.report.rows.map (fun row => Shell.quote (row.executable :: row.args)) =
        ["nvcc a.cu", "gcc -c b.c", "as -o b.o b.s", "rustc 'c d.rs' --emit llvm-ir,asm -O"] := by
  have hwalk : (createWithin 3 {} false "nvcc a.cu" (.ofString "/work") mixedWorld).1.toOption.map
      (fun root => root.walk.map fun entry => (entry.1, entry.2.text)) =
      some [([], "nvcc a.cu"), ([0], "gcc -c b.c"), ([0, 0], "as -o b.o b.s"),
        ([1], "rustc 'c d.rs' --emit llvm-ir,asm -O")] := by
    decide +kernel
  cases hmade : createWithin 3 {} false "nvcc a.cu" (.ofString "/work") mixedWorld with
  | mk result after =>
    rw [hmade] at hwalk
    cases result with
    | error failure => cases hwalk
    | ok root =>
      obtain ⟨-, -, -, hlinked, -, -, htexts⟩ :=
        createWithin_views 3 {} false "nvcc a.cu" _ _ _ _ hmade
      have hwalk := Option.some.inj hwalk
      refine ⟨root, after, rfl, ?_, fun entry hentry => (hlinked entry hentry _).2 rfl, ?_⟩
      · simpa [Function.comp_def] using congrArg (List.map Prod.fst) hwalk
      · rw [htexts]
        simpa [Function.comp_def] using congrArg (List.map Prod.snd) hwalk

end CompilerCommands
