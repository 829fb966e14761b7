import CompilerCommands.Proofs.Discovery.Cancellation
import CompilerCommands.Proofs.Discovery.Failures
import CompilerCommands.Proofs.Discovery.Rediscovery

/-!
# Trees that are cut short

A creation that is cancelled during the dry run of its root returns the root without jobs, and the
root tells of it. If it is a driver below the root that is waited for, that driver tells, but the
root has its jobs and looks like one whose tree is complete.
-/

namespace CompilerCommands

/-! ## Roots -/

namespace Command

variable {root : Command} {node : Node}

theorem eq_command_of_mem_driverNodes (h : node ∈ root.driverNodes)
    (hposition : node.position = []) : root = node.command := by
  have hat := mem_walk_iff.1 (mem_driverNodes.1 h)
  rw [hposition] at hat
  exact Option.some.inj hat

theorem jobs_ne_nil_of_mem_driverNodes (h : node ∈ root.driverNodes)
    (hposition : node.position ≠ []) : root.jobs ≠ [] := by
  have hat := mem_walk_iff.1 (mem_driverNodes.1 h)
  obtain ⟨n, rest, hrest⟩ := List.exists_cons_of_ne_nil hposition
  rw [hrest, at?_cons] at hat
  intro hjobs
  rw [hjobs] at hat
  cases hat

theorem exists_command_of_jobs_ne_nil (h : root.jobs ≠ []) :
    ∃ node ∈ root.driverNodes, root = node.command := by
  cases root with
  | job tool call => exact absurd rfl h
  | rustc call flags => exact absurd rfl h
  | driver kind call state jobs =>
    exact ⟨⟨[], kind, call, state, jobs⟩, mem_driverNodes.2 (mem_walk_iff.2 rfl), rfl⟩

end Command

section

variable {terms : Terms} {here : Position} {kind : Driver}
  {call : Invocation} {state : DiscoveryState} {jobs : List Command} {program : Path}
  {world after : World} {command : Command} {depth : Nat} {strict : Bool} {line : String}
  {dir : Path}

theorem Leaves.state_eq {node : Driver × Invocation} {planned : List Job}
    (h : Leaves terms world here node state planned) (hplanned : planned ≠ []) : state = {} := by
  cases h with
  | planned h => rfl
  | _ => exact absurd rfl hplanned

/-- A created root that has jobs looks like one whose tree is complete. -/
theorem discovery?_of_jobs_ne_nil
    (h : createWithin depth terms strict line dir world = (.ok command, after))
    (hjobs : command.jobs ≠ []) : command.discovery? = some {} := by
  obtain ⟨node, hnode, hcommand⟩ := Command.exists_command_of_jobs_ne_nil hjobs
  obtain ⟨mid, planned, hleaves, hcalls⟩ := (asLeft_createWithin h).exists_leftIn hnode
  have hplanned : planned ≠ [] := by
    rintro rfl
    refine hjobs ?_
    rw [hcommand]
    exact List.map_eq_nil_iff.1 hcalls
  rw [hcommand, ← hleaves.state_eq hplanned]
  rfl

/-! ## Waiting for the root -/

theorem settle_fst_of_eq {result : Except Failure Discovered × World}
    {found : Except Failure Discovered} (h : result.1 = found) :
    (settle strict kind call result).1 = (settle strict kind call (found, result.2)).1 := by
  rw [← h]

/-- A creation that is cancelled while the dry run of its root is waited for, and is not broken off,
returns the root: without jobs, and as one whose discovery was cancelled. -/
theorem createWithin_of_waiting_root {executable : String} {args : List String}
    {behaviour : Behaviour} {t : Ticks} (ht : t ∈ terms.cancelTime?)
    (hwords : tokenize line = .ok (executable :: args))
    (hkind : Toolchain.classify executable = some (.driver kind))
    (hwait : DryRunsUntil terms world (kind, ⟨line, executable, args, dir, none, .linux⟩) program
      behaviour (max world.now t))
    (habort : (createWithin (depth + 1) terms strict line dir world).1 ≠ .error .aborted) :
    (createWithin (depth + 1) terms strict line dir world).1 =
      .ok (.driver kind ⟨line, executable, args, dir, none, .linux⟩ { cancelled := true } []) := by
  rw [createWithin_of_driver hwords hkind] at habort ⊢
  have hended : DryRunEnds terms world (kind, ⟨line, executable, args, dir, none, .linux⟩) program
    _ := ⟨hwait.found, rfl⟩
  have haborted : (run terms (program.toString :: kind.dryRunArgs args) dir world).1 ≠
      .aborted := by
    intro haborted
    rw [dryRunWords, haborted] at hended
    rw [settle_fst_of_eq (discoverWithin_of_no_plan (.error .aborted) hended rfl)] at habort
    exact habort rfl
  rw [dryRunWords, (hwait.runs.run_cancelled ht haborted).1] at hended
  rw [settle_fst_of_eq (discoverWithin_of_no_plan (.ok ()) hended rfl)]
  rfl

/-! ## Waiting for any driver -/

/-- The root of a returned tree shows that its creation was cancelled. -/
def Command.ShowsCancellation (root : Command) : Prop :=
  root.discovery? = some { cancelled := true } ∧ root.jobs = []

/-- The driver that is waited for shows it. The root shows it exactly if it is that driver. -/
theorem showsCancellation_iff {t : Ticks} (ht : t ∈ terms.cancelTime?)
    (h : createWithin depth terms strict line dir world = (.ok command, after))
    {visit : World × Command.Node} (hvisit : visit ∈ visits terms world command.driverNodes)
    {behaviour : Behaviour}
    (hwait : DryRunsUntil terms visit.1 visit.2.run program behaviour (max visit.1.now t)) :
    visit.2.command.ShowsCancellation ∧
      (command.ShowsCancellation ↔ visit.2.position = []) ∧
      (visit.2.position ≠ [] → command.discovery? = some {} ∧ command.jobs ≠ []) := by
  have hnode : visit.2 ∈ command.driverNodes := by
    rw [← map_snd_visits terms world command.driverNodes]
    exact List.mem_map_of_mem hvisit
  obtain ⟨hcancelled, hjobs, -⟩ := (stopped_createWithin h visit hvisit).waiting t ht program
    behaviour hwait
  have hshows : visit.2.command.ShowsCancellation := by
    have herror := (Command.Node.Begun.created h hnode).consistent.exclusive hcancelled
    have hstate : visit.2.state = { cancelled := true } := by
      obtain ⟨world, position, kind, call, ⟨cancelled, error⟩, jobs⟩ := visit
      simp_all
    exact ⟨congrArg some hstate, hjobs⟩
  have hbelow : visit.2.position ≠ [] → command.discovery? = some {} ∧ command.jobs ≠ [] := by
    intro hposition
    have hroot := Command.jobs_ne_nil_of_mem_driverNodes hnode hposition
    exact ⟨discovery?_of_jobs_ne_nil h hroot, hroot⟩
  refine ⟨hshows, ⟨fun hroot => ?_, fun hposition => ?_⟩, hbelow⟩
  · exact Classical.not_not.1 fun hposition => (hbelow hposition).2 hroot.2
  · rw [Command.eq_command_of_mem_driverNodes hnode hposition]
    exact hshows

end

/-- Whether a cancelled creation is seen on the root. If the dry run of the root is waited for when
the time to cancel the call comes, and the call is not broken off, the root is returned without jobs
and shows it. In a tree that is returned, whichever driver is waited for at that time shows it; the
root shows it exactly if it is that driver, and has jobs and nothing noted if it is not. -/
theorem createWithin_cut_short (terms : Terms) {t : Ticks} (ht : t ∈ terms.cancelTime?)
    (depth : Nat) (strict : Bool) (line : String) (dir : Path) (world : World) :
    (∀ executable args kind program behaviour, tokenize line = .ok (executable :: args) →
      Toolchain.classify executable = some (.driver kind) →
      DryRunsUntil terms world (kind, ⟨line, executable, args, dir, none, .linux⟩) program
        behaviour (max world.now t) →
      (createWithin (depth + 1) terms strict line dir world).1 ≠ .error .aborted →
      ∃ command, (createWithin (depth + 1) terms strict line dir world).1 = .ok command ∧
        command.ShowsCancellation) ∧
    ∀ command after, createWithin depth terms strict line dir world = (.ok command, after) →
      ∀ visit ∈ visits terms world command.driverNodes, ∀ program behaviour,
        DryRunsUntil terms visit.1 visit.2.run program behaviour (max visit.1.now t) →
        visit.2.command.ShowsCancellation ∧
        (command.ShowsCancellation ↔ visit.2.position = []) ∧
        (visit.2.position ≠ [] → command.discovery? = some {} ∧ command.jobs ≠ []) := by
  constructor
  · intro executable args kind program behaviour hwords hkind hwait habort
    exact ⟨_, createWithin_of_waiting_root ht hwords hkind hwait habort, rfl, rfl⟩
  · intro command after h visit hvisit program behaviour hwait
    exact showsCancellation_iff ht h hvisit hwait

/-- nvcc plans one driver, and that does not end. -/
def hangingWorld : World where
  host := { cwd := .ofString "/work"
            files := [(.ofString "/bin/nvcc", printing ["#$ clang -c a.c"]),
              (.ofString "/bin/clang", { launches := [.started { duration := none }] })] }

def cancelledSoon : Terms := { cancellable := true, cancelAt := some 5 }

theorem dryRunsUntil_hanging {world : World} {call : Invocation}
    (hfound : world.host.findExecutable? call.executable call.workingDir {} =
      some (.ofString "/bin/clang"))
    (huncancelled : world.cancelled = false)
    (hplace : world.host.resolve? "/bin/clang" call.workingDir (world.childEnv cancelledSoon) =
      some (.ofString "/bin/clang"))
    (hlaunch : (world.start (.ofString "/bin/clang")).1 = .started { duration := none }) :
    DryRunsUntil cancelledSoon world (.clang, call) (.ofString "/bin/clang") { duration := none }
      (max world.now 5) where
  found := hfound
  runs := {
    uncancelled := by rw [huncancelled, Bool.and_false]
    started := ⟨_, hplace, hlaunch⟩
    running := nofun
    inTime := nofun }

theorem exists_waiting_below_nvcc :
    ∃ command after visit, createWithin 3 cancelledSoon false "nvcc a.cu" (.ofString "/work")
        hangingWorld = (.ok command, after) ∧
      visit ∈ visits cancelledSoon hangingWorld command.driverNodes ∧
      DryRunsUntil cancelledSoon visit.1 visit.2.run (.ofString "/bin/clang")
        { duration := none } (max visit.1.now 5) ∧
      visit.2.position = [0] := by
  have hnodes : (createWithin 3 cancelledSoon false "nvcc a.cu" (.ofString "/work")
      hangingWorld).1.toOption.map (fun command => command.driverNodes.map fun node =>
        (node.position, node.run)) =
      some [([], .nvcc, ⟨"nvcc a.cu", "nvcc", ["a.cu"], .ofString "/work", none, .linux⟩),
        ([0], .clang, ⟨"clang -c a.c", "clang", ["-c", "a.c"], .ofString "/work", some [],
          .linux⟩)] := by
    decide +kernel
  have hwait : DryRunsUntil cancelledSoon
      (hangingWorld.dryRun cancelledSoon (.nvcc, ⟨"nvcc a.cu", "nvcc", ["a.cu"],
        .ofString "/work", none, .linux⟩))
      (.clang, ⟨"clang -c a.c", "clang", ["-c", "a.c"], .ofString "/work", some [], .linux⟩)
      (.ofString "/bin/clang") { duration := none } (max _ 5) :=
    dryRunsUntil_hanging (by decide +kernel) (by decide +kernel) (by decide +kernel)
      (by decide +kernel)
  cases hmade : createWithin 3 cancelledSoon false "nvcc a.cu" (.ofString "/work")
      hangingWorld with
  | mk result after =>
    rw [hmade] at hnodes
    cases result with
    | error failure => cases hnodes
    | ok command =>
      obtain ⟨root, below, hcommand, hroot, hbelow⟩ :=
        List.map_eq_cons_iff.1 (Option.some.inj hnodes)
      obtain ⟨node, others, rfl, hnode, -⟩ := List.map_eq_cons_iff.1 hbelow
      obtain ⟨-, hnvcc⟩ := Prod.mk.inj hroot
      obtain ⟨hposition, hclang⟩ := Prod.mk.inj hnode
      refine ⟨command, after, (hangingWorld.dryRun cancelledSoon root.run, node), rfl, ?_, ?_,
        hposition⟩
      · rw [hcommand]
        exact List.mem_cons_of_mem _ (List.mem_cons_self ..)
      · rw [hnvcc, hclang]
        exact hwait

theorem createWithin_cut_short_hanging :
    (∃ command, (createWithin 3 cancelledSoon false "clang a.c" (.ofString "/work")
      hangingWorld).1 = .ok command ∧ command.ShowsCancellation) ∧
    ∃ command after, createWithin 3 cancelledSoon false "nvcc a.cu" (.ofString "/work")
        hangingWorld = (.ok command, after) ∧
      command.discovery? = some {} ∧ command.jobs ≠ [] ∧
      ∃ node ∈ command.driverNodes, node.command.ShowsCancellation := by
  constructor
  · have hmade : (createWithin 3 cancelledSoon false "clang a.c" (.ofString "/work")
        hangingWorld).1.isOk = true := by
      decide +kernel
    refine (createWithin_cut_short cancelledSoon rfl 2 false "clang a.c" (.ofString "/work")
      hangingWorld).1 "clang" ["a.c"] .clang (.ofString "/bin/clang") { duration := none }
      (eq_ok_of_toOption (by decide +kernel)) (by decide +kernel) ?_ fun habort => ?_
    · exact dryRunsUntil_hanging (by decide +kernel) (by decide +kernel) (by decide +kernel)
        (by decide +kernel)
    · rw [habort] at hmade
      cases hmade
  · obtain ⟨command, after, visit, hmade, hvisit, hwait, hposition⟩ := exists_waiting_below_nvcc
    obtain ⟨hshows, -, hbelow⟩ := (createWithin_cut_short cancelledSoon rfl 3 false "nvcc a.cu"
      (.ofString "/work") hangingWorld).2 command after hmade visit hvisit _ _ hwait
    obtain ⟨hstate, hjobs⟩ := hbelow (by simp [hposition])
    refine ⟨command, after, hmade, hstate, hjobs, visit.2, ?_, hshows⟩
    rw [← map_snd_visits cancelledSoon hangingWorld command.driverNodes]
    exact List.mem_map_of_mem hvisit

/-- A creation that is cancelled while it waits for a driver below the root returns a root that does
not show it. -/
theorem not_showsCancellation_nvcc :
    ∃ command after visit, createWithin 3 cancelledSoon false "nvcc a.cu" (.ofString "/work")
        hangingWorld = (.ok command, after) ∧
      visit ∈ visits cancelledSoon hangingWorld command.driverNodes ∧
      DryRunsUntil cancelledSoon visit.1 visit.2.run (.ofString "/bin/clang")
        { duration := none } (max visit.1.now 5) ∧
      ¬command.ShowsCancellation := by
  obtain ⟨command, after, visit, hmade, hvisit, hwait, hposition⟩ := exists_waiting_below_nvcc
  refine ⟨command, after, visit, hmade, hvisit, hwait, fun hshows => ?_⟩
  rw [(showsCancellation_iff rfl hmade hvisit hwait).2.1.1 hshows] at hposition
  cases hposition

end CompilerCommands
