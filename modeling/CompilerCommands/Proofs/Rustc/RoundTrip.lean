import CompilerCommands.Proofs.Rustc.Classes
import CompilerCommands.Proofs.Rustc.Options
import CompilerCommands.Rustc.Change

/-!
# Reading the arguments of a state

Every state that arguments and changes lead to is `Readable`: the arguments that ask for it are read
as the state itself, with the filter folded into the options for LLVM (`folded`).
-/

namespace CompilerCommands.Rustc

/-! ## Reachable states -/

/-- What the state emits and its codegen options are read from text as they are. -/
structure Flags.Readable (flags : Flags) : Prop where
  emitting : flags.Emitting
  keys : ∀ option ∈ flags.codegen, '=' ∉ option.key.toList
  merged : Merged flags.codegen

namespace Flags

variable {flags : Flags}

theorem readable_initial (units : List ArgUnit) : (initial units).Readable where
  emitting :=
    ⟨by simp [initial], by simp [initial], by rintro (_ | _) _ <;> simp [initial, emitPath]⟩
  keys := by simp [initial]
  merged := merged_nil

theorem Readable.of_eq {other : Flags} (h : flags.Readable)
    (ho : other.otherEmits = flags.otherEmits) (hp : other.emitPath = flags.emitPath)
    (hc : other.codegen = flags.codegen) : other.Readable where
  emitting := h.emitting.of_eq ho hp
  keys := by rw [hc]; exact h.keys
  merged := by rw [hc]; exact h.merged

theorem Readable.setEmits (h : flags.Readable) (a : Artifact) (b : Bool) :
    (flags.setEmits a b).Readable := by
  refine ⟨h.emitting.setEmits a b, ?_, ?_⟩
  · cases a <;> exact h.keys
  · cases a <;> exact h.merged

theorem Readable.recordEmit (h : flags.Readable) (kinds : String) :
    (flags.recordEmit kinds).Readable where
  emitting := h.emitting.recordEmit kinds
  keys := by simpa using h.keys
  merged := by simpa using h.merged

theorem keys_addOption {options : List Setting} {option : Setting}
    (h : ∀ a ∈ options, '=' ∉ a.key.toList) (ho : '=' ∉ option.key.toList) :
    ∀ a ∈ addOption options option, '=' ∉ a.key.toList := by
  intro a ha
  rcases key_mem_addOption ha with hk | ⟨b, hb, hk⟩
  · rwa [hk]
  · rw [← hk]
    exact h b hb

theorem Readable.addCodegen (h : flags.Readable) {option : Setting}
    (ho : '=' ∉ option.key.toList) : (flags.addCodegen option).Readable where
  emitting := h.emitting.of_eq rfl rfl
  keys := keys_addOption h.keys ho
  merged := h.merged.addOption option

theorem Readable.setCodegen (h : flags.Readable) {key : String} (hk : '=' ∉ key.toList)
    (value : Option String) : (flags.setCodegen key value).Readable where
  emitting := h.emitting.of_eq rfl rfl
  keys := by
    intro a ha
    rcases mem_setOption ha with rfl | ha
    · exact hk
    · exact h.keys a ha
  merged := h.merged.setOption key value

theorem Readable.applyUnit (h : flags.Readable) (unit : ArgUnit) :
    (ArgUnit.apply flags unit).Readable := by
  cases unit with
  | emit kinds => exact h.recordEmit kinds
  | codegen option => exact h.addCodegen (Setting.not_mem_key_ofString option)
  | optimize => exact h.of_eq rfl rfl rfl
  | retained arg => exact h.of_eq rfl rfl rfl

theorem readable_ofUnits (units : List ArgUnit) : (ofUnits units).Readable := by
  unfold ofUnits
  have h := readable_initial units
  generalize initial units = flags at h
  induction units generalizing flags with
  | nil => exact h
  | cons unit rest ih => exact ih _ (h.applyUnit unit)

end Flags

/-- Sets only keys that can be told from their values. -/
def Change.KeySafe : Change → Prop
  | setCodegen key _ => '=' ∉ key.toList
  | _ => True

instance (change : Change) : Decidable change.KeySafe :=
  match change with
  | .setCodegen key _ => inferInstanceAs (Decidable ('=' ∉ key.toList))
  | .emit .. | .optimize _ | .filter _ | .recordEmit _ | .addCodegen _ => isTrue trivial

theorem Flags.Readable.applyChange {flags : Flags} (h : flags.Readable) {change : Change}
    (hc : change.KeySafe) : (change.apply flags).Readable := by
  cases change with
  | emit artifact on => exact h.setEmits artifact on
  | optimize on => exact h.of_eq rfl rfl rfl
  | filter pattern => exact h.of_eq rfl rfl rfl
  | recordEmit kinds => exact h.recordEmit kinds
  | addCodegen option => exact h.addCodegen (Setting.not_mem_key_ofString option)
  | setCodegen key value => exact h.setCodegen hc value

theorem Flags.readable_applyAll {flags : Flags} (h : flags.Readable) {changes : List Change}
    (hc : ∀ change ∈ changes, change.KeySafe) : (Change.applyAll flags changes).Readable := by
  unfold Change.applyAll
  induction changes generalizing flags with
  | nil => exact h
  | cons change rest ih =>
    exact ih (h.applyChange (hc change (by simp))) fun c hm => hc c (List.mem_cons_of_mem _ hm)

/-! ## Arguments that are kept -/

theorem Flags.retained_applyAll (flags : Flags) (changes : List Change) :
    (Change.applyAll flags changes).retained = flags.retained := by
  unfold Change.applyAll
  induction changes generalizing flags with
  | nil => rfl
  | cons change rest ih =>
    rw [List.foldl_cons, ih]
    cases change with
    | emit artifact on => cases artifact <;> rfl
    | recordEmit kinds => exact retained_recordEmit flags kinds
    | _ => rfl

theorem Flags.standsAlone_of_mem_retained {args : List String}
    (hlast : ∀ arg ∈ (Flags.ofArgs args).retained.getLast?, arg ∉ pairFlags) :
    ∀ arg ∈ (Flags.ofArgs args).retained, ArgUnit.StandsAlone arg := by
  rw [Flags.ofArgs, retained_ofUnits] at hlast ⊢
  exact ArgUnit.standsAlone_of_mem_ofArgs hlast

/-! ## Reading back -/

/-- The state with the filter among the options for LLVM and without paths of what is not emitted.
-/
def Flags.folded (flags : Flags) : Flags :=
  { flags with
    llvmIrPath := if flags.emitLlvmIr then flags.llvmIrPath else none
    asmPath := if flags.emitAsm then flags.asmPath else none
    codegen := flags.codegenOptions
    filter := none }

theorem Flags.synthesize_folded (flags : Flags) : flags.folded.synthesize = flags.synthesize := by
  have hkinds : flags.folded.emitKinds = flags.emitKinds := by
    by_cases hl : flags.emitLlvmIr = true <;> by_cases ha : flags.emitAsm = true <;>
      simp [emitKinds, emitSettings, Artifact.all, List.filter_cons, emits, emitSetting, emitPath,
        folded, hl, ha]
  unfold synthesize emitArgs
  rw [hkinds]
  rfl

theorem Flags.initial_of_emit {units : List ArgUnit} (h : units.any ArgUnit.isEmit = true) :
    Flags.initial units = { emitLlvmIr := false, emitAsm := false } := by
  simp [Flags.initial, h]

theorem foldl_apply_retained (kept : List String) (flags : Flags) :
    (kept.map ArgUnit.retained).foldl ArgUnit.apply flags =
      { flags with retained := flags.retained ++ kept } := by
  induction kept generalizing flags with
  | nil => simp
  | cons arg rest ih => simp [ih, ArgUnit.apply]

theorem foldl_apply_codegen {options : List Setting} (h : ∀ a ∈ options, '=' ∉ a.key.toList)
    (flags : Flags) :
    (options.map fun option => ArgUnit.codegen option.text).foldl ArgUnit.apply flags =
      { flags with codegen := options.foldl addOption flags.codegen } := by
  induction options generalizing flags with
  | nil => rfl
  | cons option rest ih =>
    rw [List.map_cons, List.foldl_cons, ih fun a ha => h a (List.mem_cons_of_mem _ ha)]
    rw [ArgUnit.apply, Setting.ofString_text (h option (by simp))]
    rfl

theorem foldl_apply_optimize (on : Bool) (flags : Flags) :
    (if on then [ArgUnit.optimize] else []).foldl ArgUnit.apply flags =
      { flags with optimize := flags.optimize || on } := by
  cases on <;> simp [ArgUnit.apply]

theorem Flags.Readable.codegenOptions {flags : Flags} (h : flags.Readable) :
    (∀ option ∈ flags.codegenOptions, '=' ∉ option.key.toList) ∧ Merged flags.codegenOptions := by
  unfold Flags.codegenOptions
  split
  · exact ⟨h.keys, h.merged⟩
  · exact ⟨keys_addOption h.keys (show '=' ∉ llvmArgs.toList by decide), h.merged.addOption _⟩

/-- The arguments of a readable state are read as that state. -/
theorem Flags.Readable.ofArgs_synthesize {flags : Flags} (h : flags.Readable)
    (hk : ∀ arg ∈ flags.retained, ArgUnit.StandsAlone arg) (hne : flags.emitKinds ≠ []) :
    Flags.ofArgs flags.synthesize = flags.folded := by
  obtain ⟨hkeys, hmerged⟩ := h.codegenOptions
  have hadd : flags.codegenOptions.foldl addOption [] = flags.codegenOptions :=
    foldl_addOption_of_merged (by simpa using hmerged)
  rw [Flags.ofArgs, ArgUnit.ofArgs_synthesize hk hne, ofUnits,
    initial_of_emit (by simp [ArgUnit.isEmit]), List.foldl_append, foldl_apply_retained,
    List.foldl_cons, ArgUnit.apply, List.nil_append, recordEmit_emitKinds h.emitting hne,
    List.foldl_append, foldl_apply_codegen hkeys, foldl_apply_optimize]
  simp only [hadd, Bool.false_or]
  rfl

/-! ## Main result -/

/-- Whatever arguments and changes lead to a state, its own arguments lead back to it, and give the
same arguments again. -/
theorem ofArgs_synthesize_applyAll {args : List String} {changes : List Change}
    (hlast : ∀ arg ∈ (Flags.ofArgs args).retained.getLast?, arg ∉ pairFlags)
    (hkeys : ∀ change ∈ changes, change.KeySafe)
    (hne : (Change.applyAll (Flags.ofArgs args) changes).emitKinds ≠ []) :
    let flags := Change.applyAll (Flags.ofArgs args) changes
    Flags.ofArgs flags.synthesize = flags.folded ∧
      (Flags.ofArgs flags.synthesize).synthesize = flags.synthesize := by
  intro flags
  have hflags : flags.Readable := Flags.readable_applyAll (Flags.readable_ofUnits _) hkeys
  have hretained : ∀ arg ∈ flags.retained, ArgUnit.StandsAlone arg := by
    rw [Flags.retained_applyAll]
    exact Flags.standsAlone_of_mem_retained hlast
  have hback : Flags.ofArgs flags.synthesize = flags.folded :=
    hflags.ofArgs_synthesize hretained hne
  exact ⟨hback, by rw [hback, Flags.synthesize_folded]⟩

theorem ofArgs_synthesize_applyAll_mixed :
    let args := ["main.rs", "--emit= link=a,asm=x.s, link,mir", "-Cllvm-args=-p q", "-C",
      "llvm-args", "-O", "-o"]
    let changes : List Change := [.setCodegen "opt-level" (some "a=b"), .recordEmit "llvm-ir=o.ll",
      .emit .asm false, .addCodegen "llvm-args=-r", .filter (some "add"), .setCodegen "" none]
    let flags := Change.applyAll (Flags.ofArgs args) changes
    (∀ arg ∈ (Flags.ofArgs args).retained.getLast?, arg ∉ pairFlags) ∧
      (∀ change ∈ changes, change.KeySafe) ∧ flags.emitKinds ≠ [] ∧
      Flags.ofArgs flags.synthesize = flags.folded ∧
      (Flags.ofArgs flags.synthesize).synthesize = flags.synthesize := by
  intro args changes flags
  have hlast : ∀ arg ∈ (Flags.ofArgs args).retained.getLast?, arg ∉ pairFlags := by decide +kernel
  have hkeys : ∀ change ∈ changes, change.KeySafe := by decide +kernel
  have hne : flags.emitKinds ≠ [] := by decide +kernel
  exact ⟨hlast, hkeys, hne, ofArgs_synthesize_applyAll hlast hkeys hne⟩

end CompilerCommands.Rustc
