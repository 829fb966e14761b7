import CompilerCommands.Command.Basic
import CompilerCommands.Proofs.Rustc.RoundTrip

/-!
# Kinds that a state lists

The arguments of a state list its kinds between commas. An artifact stands among them exactly if it
is emitted, once, and with the path that was given for it. So the path that is reported for an
artifact can be told from the arguments and the output.
-/

namespace CompilerCommands.Rustc

namespace Flags

variable {flags : Flags} {item : Setting}

/-! ## What is listed -/

/-- The kinds behind `--emit` in the arguments of a state, as they stand there between commas. -/
def listedKinds (flags : Flags) : List String :=
  match flags.synthesize.drop flags.retained.length with
  | "--emit" :: kinds :: _ => (kinds.toList.splitOn ',').map String.ofList
  | _ => []

theorem Emitting.applyChange (h : flags.Emitting) (change : Change) :
    (change.apply flags).Emitting := by
  cases change with
  | emit artifact on => exact h.setEmits artifact on
  | optimize on => exact h.of_eq rfl rfl
  | filter pattern => exact h.of_eq rfl rfl
  | recordEmit kinds => exact h.recordEmit kinds
  | addCodegen option => exact h.of_eq rfl rfl
  | setCodegen key value => exact h.of_eq rfl rfl

theorem Emitting.applyAll (h : flags.Emitting) (changes : List Change) :
    (Change.applyAll flags changes).Emitting := by
  unfold Change.applyAll
  induction changes generalizing flags with
  | nil => exact h
  | cons change rest ih => exact ih (h.applyChange change)

theorem Emitting.listedKinds_eq (h : flags.Emitting) : flags.listedKinds = flags.emitKinds := by
  have hdrop : flags.synthesize.drop flags.retained.length =
      flags.emitArgs ++ (flags.codegenArgs ++ if flags.optimize then ["-O"] else []) := by
    rw [synthesize, List.append_assoc, List.append_assoc, List.drop_left]
  rw [listedKinds, hdrop]
  by_cases hnone : flags.emitSettings = []
  · have hkinds : flags.emitKinds = [] := by rw [emitKinds, hnone, List.map_nil]
    rw [emitArgs, hkinds, codegenArgs]
    cases flags.codegenOptions with
    | nil => cases flags.optimize <;> rfl
    | cons option rest => rfl
  · have hargs : flags.emitArgs = ["--emit", ",".intercalate flags.emitKinds] :=
      if_neg (by simpa [emitKinds] using hnone)
    rw [hargs]
    simp only [List.cons_append, emitKinds, splitOn_intercalate_text hnone h.listable, List.map_map]
    refine List.map_congr_left fun item _ => ?_
    rw [Function.comp_apply, String.ofList_toList]

theorem Emitting.map_ofString_listedKinds (h : flags.Emitting) :
    flags.listedKinds.map Setting.ofString = flags.emitSettings := by
  rw [h.listedKinds_eq, emitKinds, List.map_map]
  conv_rhs => rw [← List.map_id flags.emitSettings]
  exact List.map_congr_left fun item hi => Setting.ofString_text (h.listable item hi).key

theorem Emitting.text_mem_listedKinds (h : flags.Emitting) (hkey : '=' ∉ item.key.toList) :
    item.text ∈ flags.listedKinds ↔ item ∈ flags.emitSettings := by
  rw [← h.map_ofString_listedKinds, List.mem_map]
  constructor
  · exact fun hmem => ⟨item.text, hmem, Setting.ofString_text hkey⟩
  · rintro ⟨kind, hkind, rfl⟩
    rwa [Setting.text_ofString]

/-! ## Artifacts -/

theorem Emitting.filter_emitSettings_artifact (h : flags.Emitting) (a : Artifact) :
    flags.emitSettings.filter (·.key = a.name) =
      if flags.emits a then [flags.emitSetting a] else [] := by
  have hothers : flags.otherEmits.filter (·.key = a.name) = [] :=
    List.filter_eq_nil_iff.2 fun item hi => by
      simpa using (Artifact.name_ne_of_ofName? (h.others item hi).artifact a).symm
  rw [emitSettings, List.filter_append, hothers, List.nil_append]
  cases a <;> cases hl : flags.emits .llvmIr <;> cases ha : flags.emits .asm <;>
    simp [Artifact.all, hl, ha, emitSetting, Artifact.name]

theorem Emitting.mem_emitSettings_artifact (h : flags.Emitting) {a : Artifact}
    (hkey : item.key = a.name) :
    item ∈ flags.emitSettings ↔ flags.emits a = true ∧ item = flags.emitSetting a := by
  have hfilter : item ∈ flags.emitSettings.filter (·.key = a.name) ↔ item ∈ flags.emitSettings := by
    simp [List.mem_filter, hkey]
  rw [← hfilter, h.filter_emitSettings_artifact]
  cases flags.emits a <;> simp

theorem Emitting.listed_artifact_iff (h : flags.Emitting) (a : Artifact) (path : Option String) :
    Setting.text ⟨a.name, path⟩ ∈ flags.listedKinds ↔
      flags.emits a = true ∧ flags.emitPath a = path := by
  rw [h.text_mem_listedKinds a.not_mem_name, h.mem_emitSettings_artifact rfl, emitSetting,
    Setting.mk.injEq]
  simp only [true_and, eq_comm]

/-! ## Paths of artifacts -/

variable {a : Artifact} {output : Option String}

theorem artifactPath_of_emitPath {path : String} (hemits : flags.emits a = true)
    (hpath : flags.emitPath a = some path) : flags.artifactPath output a = some path := by
  simp [artifactPath, hemits, hpath]

theorem artifactPath_of_no_emitPath (hemits : flags.emits a = true)
    (hpath : flags.emitPath a = none) :
    flags.artifactPath output a =
      (output.filter (· ≠ stdoutMarker)).map (dropExtension · ++ a.suffix) := by
  cases output with
  | none => simp [artifactPath, hemits, hpath]
  | some path =>
    by_cases hfile : path = stdoutMarker <;>
      simp [artifactPath, hemits, hpath, Option.filter, hfile]

theorem artifactPath_of_not_emits (h : ¬flags.emits a = true) :
    flags.artifactPath output a = none := by
  simp [artifactPath, h]

end Flags

/-! ## Main result -/

/-- Whatever is changed about a rustc command, the path reported for an artifact is the one that its
arguments list with the artifact. If they list the artifact alone it is beside the output, if there
is one that is not the standard output; if they do not list it there is no path. They list it once
at most. -/
theorem artifactPath_listed (call : Invocation) (changes : List Change) (a : Artifact) :
    let flags := Change.applyAll (Flags.ofArgs call.args) changes
    let command := (Command.ofRustc call).mapFlags fun flags => Change.applyAll flags changes
    let kinds := flags.listedKinds
    command.args = flags.synthesize ∧
      (∀ path, a.name ++ "=" ++ path ∈ kinds → command.artifactPath a = some path) ∧
      ((∀ kind ∈ kinds, (Setting.ofString kind).key ≠ a.name) → command.artifactPath a = none) ∧
      (a.name ∈ kinds → command.artifactPath a =
        (command.outputPath.filter (· ≠ stdoutMarker)).map (dropExtension · ++ a.suffix)) ∧
      ((kinds.map Setting.ofString).filter (·.key = a.name)).length ≤ 1 := by
  intro flags command kinds
  have h : flags.Emitting := (Flags.readable_ofUnits _).emitting.applyAll changes
  refine ⟨rfl, fun path hlisted => ?_, fun hnone => ?_, fun hlisted => ?_, ?_⟩
  · obtain ⟨hemits, hpath⟩ := (h.listed_artifact_iff a (some path)).1 hlisted
    exact Flags.artifactPath_of_emitPath hemits hpath
  · refine Flags.artifactPath_of_not_emits fun hemits => ?_
    have hlisted := (h.listed_artifact_iff a _).2 ⟨hemits, rfl⟩
    exact hnone _ hlisted (by rw [Setting.ofString_text a.not_mem_name])
  · obtain ⟨hemits, hpath⟩ := (h.listed_artifact_iff a none).1 hlisted
    exact Flags.artifactPath_of_no_emitPath hemits hpath
  · rw [h.map_ofString_listedKinds, h.filter_emitSettings_artifact]
    split <;> simp

end CompilerCommands.Rustc
