import CompilerCommands.Proofs.Discovery.Nesting
import CompilerCommands.Proofs.DryRun.PrintedJobs

/-!
# Creations that come to an end

Where each dry run ends, a creation ends too, but not always of itself: nothing in it bounds how
deep drivers are nested. A driver whose dry run prints the driver itself is started once for each
level, and what ends that is the stack of calls, which gives out.
-/

namespace CompilerCommands

namespace Stage

/-! ## Lines -/

/-- The discovery that a creation from a driver's line begins with. -/
def IsRoot (line : String) (dir : Path) (world : World) (root : Stage) : Prop :=
  ∃ executable args kind, tokenize line = .ok (executable :: args) ∧
    Toolchain.classify executable = some (.driver kind) ∧
    root = ⟨[], kind, ⟨line, executable, args, dir, none, .linux⟩, world⟩

theorem IsRoot.unique {line : String} {dir : Path} {world : World} {root other : Stage}
    (h : root.IsRoot line dir world) (h' : other.IsRoot line dir world) : other = root := by
  obtain ⟨executable, args, kind, hwords, hkind, rfl⟩ := h
  obtain ⟨executable', args', kind', hwords', hkind', rfl⟩ := h'
  cases hwords.symm.trans hwords'
  cases hkind.symm.trans hkind'
  rfl

end Stage

/-! ## Creation -/

section

variable (terms : Terms) (strict : Bool) (line : String) (dir : Path) (world : World)

/-- No dry run of the creation is waited for without end. -/
def EachDryRunEnds : Prop :=
  ∀ root : Stage, root.IsRoot line dir world →
    ∀ stage, Relation.ReflTransGen (Stage.Nests terms) root stage → ¬stage.Hangs terms

/-- The creation ends of itself: on a stack that is deep enough it does not matter how deep it is,
and it does not give out. -/
def CreationEndsOfItself : Prop :=
  ∃ depth result, (∀ deeper, depth ≤ deeper →
    createWithin deeper terms strict line dir world = result) ∧
    ∀ failure, result.1 = .error failure → failure.unended = false

/-- The line is a driver's whose dry run prints a driver whose dry run prints a driver, and so on
without end. -/
def NestedWithoutEnd : Prop :=
  ∃ chain : Nat → Stage, (chain 0).IsRoot line dir world ∧
    ∀ n, (chain n).Nests terms (chain (n + 1))

end

section

variable {terms : Terms} {strict : Bool} {line : String} {dir : Path} {world after : World}
  {root : Stage} {failure : Failure} {depth : Nat}

theorem eachDryRunEnds_of_host (h : world.host.ProcessesEnd terms) :
    EachDryRunEnds terms line dir world := by
  intro root hroot stage hreach
  have hhost := Stage.host_unstarted_of_reach hreach
  obtain ⟨executable, args, kind, -, -, rfl⟩ := hroot
  exact Stage.not_hangs (h.of_unstarted_eq hhost)

theorem Stage.IsRoot.createWithin_unended_iff (h : root.IsRoot line dir world)
    (hunended : failure.unended = true) :
    createWithin depth terms strict line dir world = (.error failure, after) ↔
      root.discover terms depth = (.error failure, after) := by
  obtain ⟨executable, args, kind, hwords, hkind, rfl⟩ := h
  rw [createWithin_of_driver hwords hkind, settle_unended_iff hunended]
  rfl

/-- If no dry run is waited for without end, neither is the creation, whatever the stack. -/
theorem Stage.IsRoot.createWithin_ne_endless (h : root.IsRoot line dir world)
    (hruns : EachDryRunEnds terms line dir world) (strict : Bool) (depth : Nat) :
    (createWithin depth terms strict line dir world).1 ≠ .error .endless := by
  intro hendless
  have hroot := (h.createWithin_unended_iff rfl).1 (Prod.fst_eq_iff.1 hendless)
  obtain ⟨stage, hreach, hhangs⟩ := Stage.exists_hangs hroot
  exact hruns root h stage hreach hhangs

theorem Stage.IsRoot.creationEndsOfItself_iff (h : root.IsRoot line dir world)
    (hruns : EachDryRunEnds terms line dir world) :
    CreationEndsOfItself terms strict line dir world ↔ root.Ends terms := by
  constructor
  · rintro ⟨depth, result, hsame, hended⟩
    refine ⟨depth, fun htooDeep => ?_⟩
    have hmade : createWithin depth terms strict line dir world = (.error .tooDeep, _) :=
      (h.createWithin_unended_iff rfl).2 (Prod.fst_eq_iff.1 htooDeep)
    rw [hsame depth (Nat.le_refl _)] at hmade
    cases hended _ (congrArg Prod.fst hmade)
  · rintro ⟨depth, hdone⟩
    have hmade : (createWithin depth terms strict line dir world).1 ≠ .error .tooDeep :=
      fun htooDeep =>
        hdone (congrArg Prod.fst ((h.createWithin_unended_iff rfl).1 (Prod.fst_eq_iff.1 htooDeep)))
    refine ⟨depth, createWithin depth terms strict line dir world, fun deeper hle =>
      (sameDeeper_createWithin terms strict line dir world hle).eq hmade,
      fun failure hfailure => ?_⟩
    cases failure with
    | tooDeep => exact absurd hfailure hmade
    | endless => exact absurd hfailure (h.createWithin_ne_endless hruns strict depth)
    | _ => rfl

theorem Stage.IsRoot.nestedWithoutEnd_iff (h : root.IsRoot line dir world) :
    NestedWithoutEnd terms line dir world ↔ ¬root.Ends terms := by
  rw [Stage.not_ends_iff]
  constructor
  · rintro ⟨chain, hfirst, hchain⟩
    exact ⟨chain, h.unique hfirst, hchain⟩
  · rintro ⟨chain, rfl, hchain⟩
    exact ⟨chain, h, hchain⟩

/-- Where the stack gives out, a process has been attempted for each level that it holds. -/
theorem Stage.IsRoot.exists_tooDeep (h : root.IsRoot line dir world) (hends : ¬root.Ends terms)
    (strict : Bool) (depth : Nat) :
    ∃ after, createWithin depth terms strict line dir world = (.error .tooDeep, after) ∧
      world.attempts.length + depth ≤ after.attempts.length := by
  have htooDeep : (root.discover terms depth).1 = .error .tooDeep :=
    Classical.byContradiction fun hdone => hends ⟨depth, hdone⟩
  have hroot := Prod.fst_eq_iff.1 htooDeep
  refine ⟨_, (h.createWithin_unended_iff rfl).2 hroot, ?_⟩
  obtain ⟨executable, args, kind, -, -, rfl⟩ := h
  exact Stage.attempts_of_tooDeep hroot

theorem unended_of_no_root (h : ∀ root : Stage, ¬root.IsRoot line dir world)
    (hfailure : (createWithin depth terms strict line dir world).1 = .error failure) :
    failure.unended = false := by
  cases hwords : tokenize line with
  | error error =>
    obtain ⟨cause, hmade⟩ := createWithin_of_error hwords
    cases hmade.symm.trans hfailure
    rfl
  | ok words =>
    cases words with
    | nil =>
      cases (createWithin_of_nil hwords).symm.trans hfailure
      rfl
    | cons executable args =>
      cases hkind : Toolchain.classify executable with
      | none =>
        cases (createWithin_of_unknown hwords hkind).symm.trans hfailure
        rfl
      | some kind =>
        cases kind with
        | driver kind => exact absurd ⟨executable, args, kind, hwords, hkind, rfl⟩ (h _)
        | rustc =>
          obtain ⟨command, hmade⟩ := createWithin_of_rustc hwords hkind
          cases hmade.symm.trans hfailure

/-- A line that is not a driver's is done with at once, whatever the stack. -/
theorem createWithin_of_no_root (terms : Terms) (strict : Bool)
    (h : ∀ root : Stage, ¬root.IsRoot line dir world) (depth : Nat) :
    createWithin depth terms strict line dir world =
      createWithin 0 terms strict line dir world := by
  refine (sameDeeper_createWithin terms strict line dir world (Nat.zero_le depth)).eq fun h' => ?_
  cases unended_of_no_root h h'

end

/-- If no dry run is waited for without end, a creation ends on every stack. It ends of itself
exactly if drivers are not nested without end. If they are, the stack gives out, however deep it is,
when a process has been attempted for each level that it holds. -/
theorem creation_endsOfItself_iff (terms : Terms) (strict : Bool) (line : String) (dir : Path)
    (world : World) (hruns : EachDryRunEnds terms line dir world) :
    (∀ depth, (createWithin depth terms strict line dir world).1 ≠ .error .endless) ∧
    (CreationEndsOfItself terms strict line dir world ↔ ¬NestedWithoutEnd terms line dir world) ∧
    (NestedWithoutEnd terms line dir world → ∀ depth,
      ∃ after, createWithin depth terms strict line dir world = (.error .tooDeep, after) ∧
        world.attempts.length + depth ≤ after.attempts.length) := by
  by_cases hdriver : ∃ root : Stage, root.IsRoot line dir world
  · obtain ⟨root, hroot⟩ := hdriver
    rw [hroot.creationEndsOfItself_iff hruns, hroot.nestedWithoutEnd_iff, not_not]
    exact ⟨hroot.createWithin_ne_endless hruns strict, Iff.rfl,
      fun hends => hroot.exists_tooDeep hends strict⟩
  · have hroots : ∀ root : Stage, ¬root.IsRoot line dir world := not_exists.1 hdriver
    have hnested : ¬NestedWithoutEnd terms line dir world :=
      fun ⟨chain, hfirst, _⟩ => hroots _ hfirst
    refine ⟨fun depth hendless => ?_,
      iff_of_true ⟨0, _, fun deeper _ => createWithin_of_no_root terms strict hroots deeper,
        fun failure hfailure => unended_of_no_root hroots hfailure⟩ hnested,
      fun h => absurd h hnested⟩
    cases unended_of_no_root hroots hendless

theorem nvccWorld_processesEnd : nvccWorld.host.ProcessesEnd {} := by
  refine .inr fun entry hentry behaviour hbehaviour => ?_
  rcases List.mem_cons.1 hentry with rfl | hentry
  · cases List.mem_singleton.1 hbehaviour
    rfl
  · obtain rfl := List.mem_singleton.1 hentry
    cases List.mem_singleton.1 hbehaviour
    rfl

/-- nvcc's drivers plan none in their turn. -/
theorem creation_endsOfItself_nvcc :
    EachDryRunEnds {} "nvcc a.cu" (.ofString "/work") nvccWorld ∧
      CreationEndsOfItself {} false "nvcc a.cu" (.ofString "/work") nvccWorld ∧
      ¬NestedWithoutEnd {} "nvcc a.cu" (.ofString "/work") nvccWorld := by
  have hruns : EachDryRunEnds {} "nvcc a.cu" (.ofString "/work") nvccWorld :=
    eachDryRunEnds_of_host nvccWorld_processesEnd
  obtain ⟨-, hends, hnested⟩ :=
    creation_endsOfItself_iff {} false "nvcc a.cu" (.ofString "/work") nvccWorld hruns
  have hmade : (createWithin 3 {} false "nvcc a.cu" (.ofString "/work") nvccWorld).1.isOk =
      true := by
    decide +kernel
  have hnot : ¬NestedWithoutEnd {} "nvcc a.cu" (.ofString "/work") nvccWorld := by
    intro h
    obtain ⟨after, htooDeep, -⟩ := hnested h 3
    rw [htooDeep] at hmade
    cases hmade
  exact ⟨hruns, hends.2 hnot, hnot⟩

/-! ### A driver that plans itself -/

/-- clang plans the same clang. -/
def selfPlanningWorld : World where
  host := { cwd := .ofString "/work"
            files := [(.ofString "/bin/clang", printing [" clang a.c"])] }

theorem selfPlanningWorld_processesEnd : selfPlanningWorld.host.ProcessesEnd {} := by
  refine .inr fun entry hentry behaviour hbehaviour => ?_
  obtain rfl := List.mem_singleton.1 hentry
  cases List.mem_singleton.1 hbehaviour
  rfl

theorem launch_printing (lines : List String) (earlier : Nat) :
    (printing lines).launch earlier =
      .started { output := Text.Utf8.encode ("\n".intercalate lines).toList } := by
  cases earlier <;> rfl

/-- It is clang's turn, on a host where it plans itself. -/
structure Stage.PlansItself (stage : Stage) : Prop where
  kind : stage.kind = .clang
  executable : stage.call.executable = "clang"
  args : stage.call.args = ["a.c"]
  workingDir : stage.call.workingDir = .ofString "/work"
  host : stage.world.host.unstarted = selfPlanningWorld.host.unstarted

theorem runsInTime_selfPlanning {world : World}
    (hhost : world.host.unstarted = selfPlanningWorld.host.unstarted) :
    RunsInTime {} "/bin/clang" (.ofString "/work") world
      { output := Text.Utf8.encode " clang a.c".toList } where
  uncancelled := rfl
  started := by
    refine ⟨.ofString "/bin/clang", ?_, ?_⟩
    · calc world.host.resolve? "/bin/clang" (.ofString "/work") (world.childEnv {})
          = world.host.unstarted.resolve? "/bin/clang" (.ofString "/work")
              (world.host.unstarted.env.override {}) := rfl
        _ = some (.ofString "/bin/clang") := by
          rw [hhost]
          decide +kernel
    · have hfile : world.host.file? (.ofString "/bin/clang") = some (printing [" clang a.c"]) := by
        calc world.host.file? (.ofString "/bin/clang")
            = world.host.unstarted.file? (.ofString "/bin/clang") := rfl
          _ = some (printing [" clang a.c"]) := by
            rw [hhost]
            decide +kernel
      simp only [World.start, hfile, launch_printing]
      rfl
  inTime := ⟨0, rfl, ⟨nofun, nofun, nofun⟩⟩

theorem Stage.PlansItself.plans {upper : Stage} (h : upper.PlansItself) :
    ∃ mid, upper.Plans {} ([] ++ ⟨"clang", ["a.c"]⟩ :: []) mid := by
  have hfind : upper.world.host.findExecutable? upper.call.executable upper.call.workingDir {} =
      some (.ofString "/bin/clang") := by
    calc upper.world.host.findExecutable? upper.call.executable upper.call.workingDir {}
        = upper.world.host.unstarted.findExecutable? "clang" (.ofString "/work") {} := by
          rw [h.executable, h.workingDir]
          rfl
      _ = some (.ofString "/bin/clang") := by
        rw [h.host]
        decide +kernel
  have hjobs : jobsOf (.driver .clang)
      (Behaviour.text { output := Text.Utf8.encode " clang a.c".toList }) =
      [⟨"clang", ["a.c"]⟩] := by
    decide +kernel
  have hname : (Path.ofString "/bin/clang").toString = "/bin/clang" := by decide +kernel
  have hplanned : (discoverJobs {} (.driver .clang) "/bin/clang" ["a.c"] (.ofString "/work")
      upper.world).1 = .ok (some [⟨"clang", ["a.c"]⟩]) := by
    rw [discoverJobs_of_runsInTime (runsInTime_selfPlanning h.host) rfl, hjobs]
  refine ⟨(discoverJobs {} (.driver .clang) "/bin/clang" ["a.c"] (.ofString "/work") upper.world).2,
    .ofString "/bin/clang", hfind, ?_⟩
  rw [h.kind, h.args, h.workingDir, hname]
  exact Prod.fst_eq_iff.1 hplanned

theorem Stage.PlansItself.exists_nests {upper : Stage} (h : upper.PlansItself) :
    ∃ lower, upper.Nests {} lower ∧ lower.PlansItself := by
  obtain ⟨mid, hplans⟩ := h.plans
  have hdone : jobCommands (discoverWithin {} 0) upper.position upper.call 0 [] mid =
      (.ok [], mid) := rfl
  have hnests : upper.Nests {} ⟨upper.position ++ [0], .clang,
      upper.call.ofJob upper.position ⟨"clang", ["a.c"]⟩, mid⟩ :=
    .job hplans hdone (by decide +kernel)
  exact ⟨_, hnests, rfl, rfl, rfl, h.workingDir, hnests.host_unstarted.trans h.host⟩

/-- Each dry run of clang ends at once, but drivers are nested without end, and the creation does
not end of itself: on every stack clang is started once for each level, until the stack gives out.
-/
theorem not_creationEndsOfItself_selfPlanning :
    EachDryRunEnds {} "clang a.c" (.ofString "/work") selfPlanningWorld ∧
      NestedWithoutEnd {} "clang a.c" (.ofString "/work") selfPlanningWorld ∧
      ¬CreationEndsOfItself {} false "clang a.c" (.ofString "/work") selfPlanningWorld ∧
      ∀ depth, ∃ after, createWithin depth {} false "clang a.c" (.ofString "/work")
        selfPlanningWorld = (.error .tooDeep, after) ∧ depth ≤ after.attempts.length := by
  have hruns : EachDryRunEnds {} "clang a.c" (.ofString "/work") selfPlanningWorld :=
    eachDryRunEnds_of_host selfPlanningWorld_processesEnd
  have hroot : Stage.IsRoot "clang a.c" (.ofString "/work") selfPlanningWorld
      ⟨[], .clang, ⟨"clang a.c", "clang", ["a.c"], .ofString "/work", none, .linux⟩,
        selfPlanningWorld⟩ :=
    ⟨"clang", ["a.c"], .clang, eq_ok_of_toOption (by decide +kernel), by decide +kernel, rfl⟩
  have hends : ¬Stage.Ends {} ⟨[], .clang, ⟨"clang a.c", "clang", ["a.c"], .ofString "/work", none,
      .linux⟩, selfPlanningWorld⟩ :=
    Stage.not_ends_of_invariant (fun _ h => Stage.PlansItself.exists_nests h)
      ⟨rfl, rfl, rfl, rfl, rfl⟩
  refine ⟨hruns, hroot.nestedWithoutEnd_iff.2 hends,
    fun h => hends ((hroot.creationEndsOfItself_iff hruns).1 h), fun depth => ?_⟩
  obtain ⟨after, hmade, hattempts⟩ := hroot.exists_tooDeep hends false depth
  exact ⟨after, hmade, Nat.le_trans (Nat.le_add_left ..) hattempts⟩

end CompilerCommands
