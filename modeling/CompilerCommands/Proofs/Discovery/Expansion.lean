import CompilerCommands.Proofs.Discovery.Cases
import CompilerCommands.Proofs.Toolchain.Names

/-!
# Which jobs are expanded

A planned job becomes a driver with jobs of its own, rustc, or the work of a tool. The name of its
executable and its first argument decide; as no compiler has the name of another tool, a compiler is
taken for a tool only if its first argument asks for one of its own frontends.
-/

namespace CompilerCommands

/-! ## The tool of a compiler -/

/-- The first argument asks for a frontend of the compiler itself. -/
def asksFrontend (args : List String) : Prop :=
  args.head? = some "-cc1" ∨ args.head? = some "-cc1as"

theorem Tool.ofFirstArgument?_eq (args : List String) :
    ofFirstArgument? args =
      if args.head? = some "-cc1" then some cc1
      else if args.head? = some "-cc1as" then some cc1as
      else none := by
  cases args with
  | nil => rfl
  | cons first rest =>
    unfold ofFirstArgument?
    split <;> simp_all

theorem Tool.classify_of_compiler {executable : String} {kind : Toolchain}
    (h : Toolchain.classify executable = some kind) (args : List String) :
    classify executable args =
      if args.head? = some "-cc1" then cc1
      else if args.head? = some "-cc1as" then cc1as
      else other := by
  have hname : ofName (Toolchain.baseName executable) = other := Toolchain.toolName_eq_other h
  rw [classify, ofFirstArgument?_eq, hname]
  by_cases hcc1 : args.head? = some "-cc1"
  · rw [if_pos hcc1, if_pos hcc1]
  · by_cases hcc1as : args.head? = some "-cc1as"
    · rw [if_neg hcc1, if_neg hcc1, if_pos hcc1as, if_pos hcc1as]
    · rw [if_neg hcc1, if_neg hcc1, if_neg hcc1as, if_neg hcc1as]

theorem Tool.classify_eq_iff {executable : String} {kind : Toolchain}
    (h : Toolchain.classify executable = some kind) (args : List String) :
    (classify executable args = cc1 ↔ args.head? = some "-cc1") ∧
      (classify executable args = cc1as ↔ args.head? = some "-cc1as") ∧
      (classify executable args = other ↔ ¬asksFrontend args) := by
  rw [classify_of_compiler h, asksFrontend]
  by_cases hcc1 : args.head? = some "-cc1"
  · simp [hcc1]
  · by_cases hcc1as : args.head? = some "-cc1as"
    · simp [hcc1as]
    · simp [hcc1, hcc1as]

/-! ## The role of a job -/

variable {job : Job} {driver : Driver}

theorem Job.role_of_expanded (h : Toolchain.classify job.executable = some (.driver driver))
    (hargs : ¬asksFrontend job.args) : job.role = .driver driver := by
  have hother : Tool.classify job.executable job.args = .other :=
    (Tool.classify_eq_iff h job.args).2.2.2 hargs
  unfold role
  rw [h]
  exact if_pos hother

theorem Job.role_of_rustc (h : Toolchain.classify job.executable = some .rustc) :
    job.role = .rustc := by
  unfold role
  rw [h]

theorem Job.role_of_tool (hrustc : Toolchain.classify job.executable ≠ some .rustc)
    (h : Toolchain.classify job.executable = none ∨ asksFrontend job.args) :
    job.role = .tool (Tool.classify job.executable job.args) := by
  unfold role
  cases hkind : Toolchain.classify job.executable with
  | none => rfl
  | some kind =>
    cases kind with
    | rustc => exact absurd hkind hrustc
    | driver driver =>
      have hargs : asksFrontend job.args := h.resolve_left (by simp [hkind])
      have hother : Tool.classify job.executable job.args ≠ .other := fun hother =>
        (Tool.classify_eq_iff hkind job.args).2.2.1 hother hargs
      exact if_neg hother

/-- A driver is expanded, or its first argument asks for a frontend. -/
theorem Job.expansion_cases (job : Job) :
    ((∃ driver, Toolchain.classify job.executable = some (.driver driver)) ∧
      ¬asksFrontend job.args) ∨
    Toolchain.classify job.executable = some .rustc ∨
    (Toolchain.classify job.executable ≠ some .rustc ∧
      (Toolchain.classify job.executable = none ∨ asksFrontend job.args)) := by
  by_cases hargs : asksFrontend job.args
  · by_cases hrustc : Toolchain.classify job.executable = some .rustc
    · exact .inr (.inl hrustc)
    · exact .inr (.inr ⟨hrustc, .inr hargs⟩)
  · cases hkind : Toolchain.classify job.executable with
    | none => exact .inr (.inr ⟨by simp, .inl rfl⟩)
    | some kind =>
      cases kind with
      | driver driver => exact .inl ⟨⟨driver, rfl⟩, hargs⟩
      | rustc => exact .inr (.inl rfl)

/-! ## The command of a job -/

section

variable {parent : Invocation} {here : Position} {n : Nat} {world : World}

theorem jobCommand_of_expanded (discover : Discoverer)
    (h : Toolchain.classify job.executable = some (.driver driver))
    (hargs : ¬asksFrontend job.args) :
    jobCommand discover here parent n job world =
      nestedDriver discover (here ++ [n]) driver (parent.ofJob here job) world := by
  unfold jobCommand
  rw [Job.role_of_expanded h hargs]

theorem jobCommand_of_rustc (discover : Discoverer)
    (h : Toolchain.classify job.executable = some .rustc) :
    jobCommand discover here parent n job world =
      (.ok (.ofRustc (parent.ofJob here job)), world) := by
  unfold jobCommand
  rw [Job.role_of_rustc h]

theorem jobCommand_of_tool (discover : Discoverer)
    (hrustc : Toolchain.classify job.executable ≠ some .rustc)
    (h : Toolchain.classify job.executable = none ∨ asksFrontend job.args) :
    jobCommand discover here parent n job world =
      (.ok (.job (Tool.classify job.executable job.args) (parent.ofJob here job)), world) := by
  unfold jobCommand
  rw [Job.role_of_tool hrustc h]

/-- What a nested driver comes to depends on the discovery. -/
theorem exists_nestedDriver_ne (position : Position) (driver : Driver) (call : Invocation)
    (made : Except Failure Command × World) :
    ∃ other, nestedDriver other position driver call world ≠ made := by
  refine Classical.not_forall.1 fun hsame => ?_
  have haborted := hsame fun _ _ _ _ _ world => (.error .aborted, world)
  have hendless := hsame fun _ _ _ _ _ world => (.error .endless, world)
  rw [← haborted] at hendless
  simp [nestedDriver, recordNested?] at hendless

theorem jobCommand_depends_iff {made : Except Failure Command × World} {discover : Discoverer}
    (hmade : jobCommand discover here parent n job world = made) :
    (∃ another, jobCommand another here parent n job world ≠ made) ↔
      (∃ driver, Toolchain.classify job.executable = some (.driver driver)) ∧
        ¬asksFrontend job.args := by
  constructor
  · rintro ⟨another, hne⟩
    obtain hdriver | hrustc | ⟨hrustc, htool⟩ := job.expansion_cases
    · exact hdriver
    · rw [jobCommand_of_rustc _ hrustc] at hmade hne
      exact absurd hmade hne
    · rw [jobCommand_of_tool _ hrustc htool] at hmade hne
      exact absurd hmade hne
  · rintro ⟨⟨driver, hkind⟩, hargs⟩
    obtain ⟨another, hne⟩ :=
      exists_nestedDriver_ne (here ++ [n]) driver (parent.ofJob here job) made
    exact ⟨another, by rwa [jobCommand_of_expanded another hkind hargs]⟩

theorem jobCommand_ok_iff {discover : Discoverer} {command : Command} {after : World}
    (h : jobCommand discover here parent n job world = (.ok command, after)) :
    (∀ driver, (∃ state jobs, command = .driver driver (parent.ofJob here job) state jobs) ↔
      Toolchain.classify job.executable = some (.driver driver) ∧ ¬asksFrontend job.args) ∧
    (command = .ofRustc (parent.ofJob here job) ↔
      Toolchain.classify job.executable = some .rustc) ∧
    (∀ tool, command = .job tool (parent.ofJob here job) ↔
      Toolchain.classify job.executable ≠ some .rustc ∧
      (Toolchain.classify job.executable = none ∨ asksFrontend job.args) ∧
      tool = Tool.classify job.executable job.args) := by
  obtain ⟨⟨driver, hkind⟩, hargs⟩ | hrustc | ⟨hrustc, htool⟩ := job.expansion_cases
  · rw [jobCommand_of_expanded discover hkind hargs] at h
    obtain ⟨state, jobs, rfl⟩ : ∃ state jobs,
        command = .driver driver (parent.ofJob here job) state jobs := by
      obtain ⟨found, -, rfl⟩ | ⟨failure, last, recorded, -, -, rfl, -⟩ := nestedDriver_ok h
      · exact ⟨_, _, rfl⟩
      · exact ⟨_, _, rfl⟩
    simp [hkind, hargs, Command.ofRustc]
  · rw [jobCommand_of_rustc discover hrustc] at h
    cases h
    simp [hrustc, Command.ofRustc]
  · rw [jobCommand_of_tool discover hrustc htool] at h
    cases h
    have hexpanded (driver : Driver) : ¬(Toolchain.classify job.executable = some (.driver driver) ∧
        ¬asksFrontend job.args) := by
      rintro ⟨hkind, hargs⟩
      exact htool.elim (fun hnone => by simp [hkind] at hnone) hargs
    refine ⟨fun driver => by simp [hexpanded driver], by simp [hrustc, Command.ofRustc], ?_⟩
    intro tool
    rw [Command.job.injEq, and_iff_left rfl]
    exact ⟨fun heq => ⟨hrustc, htool, heq.symm⟩, fun hleaf => hleaf.2.2.symm⟩

end

/-! ## Main result -/

/-- A job is expanded as a driver exactly if its executable is one and its first argument asks for
no frontend; it is rustc exactly if its executable is; and otherwise it is the work of its tool.
Only in the first case is anything discovered. And an executable that belongs to a toolchain is
never another tool: it is a frontend if the first argument says so, and no tool otherwise. -/
theorem jobCommand_expanded_iff (discover : Discoverer) (here : Position) (parent : Invocation)
    (n : Nat) (job : Job) (world : World) :
    let call := parent.ofJob here job
    let kind := Toolchain.classify job.executable
    let tool := Tool.classify job.executable job.args
    let made := jobCommand discover here parent n job world
    (∀ driver, kind = some (.driver driver) → ¬asksFrontend job.args →
      made = nestedDriver discover (here ++ [n]) driver call world) ∧
    (kind = some .rustc → made = (.ok (.ofRustc call), world)) ∧
    (kind ≠ some .rustc → kind = none ∨ asksFrontend job.args →
      made = (.ok (.job tool call), world)) ∧
    ((∃ another, jobCommand another here parent n job world ≠ made) ↔
      (∃ driver, kind = some (.driver driver)) ∧ ¬asksFrontend job.args) ∧
    (∀ command after, made = (.ok command, after) →
      (∀ driver, (∃ state jobs, command = .driver driver call state jobs) ↔
        kind = some (.driver driver) ∧ ¬asksFrontend job.args) ∧
      (command = .ofRustc call ↔ kind = some .rustc) ∧
      ∀ leaf, command = .job leaf call ↔
        kind ≠ some .rustc ∧ (kind = none ∨ asksFrontend job.args) ∧ leaf = tool) ∧
    (kind ≠ none →
      (tool = .cc1 ↔ job.args.head? = some "-cc1") ∧
      (tool = .cc1as ↔ job.args.head? = some "-cc1as") ∧
      (tool = .other ↔ ¬asksFrontend job.args)) := by
  intro call kind tool made
  refine ⟨?_, ?_, ?_, ?_, ?_, ?_⟩
  · exact fun driver hkind hargs => jobCommand_of_expanded discover hkind hargs
  · exact jobCommand_of_rustc discover
  · exact jobCommand_of_tool discover
  · exact jobCommand_depends_iff rfl
  · exact fun command after hmade => jobCommand_ok_iff hmade
  · intro hkind
    obtain ⟨found, hfound⟩ := Option.ne_none_iff_exists'.1 hkind
    exact Tool.classify_eq_iff hfound job.args

end CompilerCommands
