import CompilerCommands.Proofs.Rustc.Listing

/-!
# Kinds of a reached state

Whatever arguments and operations lead to a state, its kinds are named apart, the artifacts stand
behind the others, and what is listed between commas is cut into the kinds again.
-/

namespace CompilerCommands.Rustc

/-- The part of a kind before the first equals sign. -/
def kindName (kind : String) : String := (Setting.ofString kind).key

namespace Flags

variable {flags : Flags}

/-- The states that arguments and operations lead to. An option may also be added as it is, with a
key that is read from no text. -/
inductive Reached : Flags → Prop
  | ofArgs (args : List String) : Reached (ofArgs args)
  | change {flags : Flags} (h : Reached flags) (change : Change) : Reached (change.apply flags)
  | addCodegen {flags : Flags} (h : Reached flags) (option : Setting) :
    Reached (flags.addCodegen option)

theorem Reached.emitting (h : flags.Reached) : flags.Emitting := by
  induction h with
  | ofArgs args => exact (readable_ofUnits (ArgUnit.ofArgs args)).emitting
  | change _ change ih => exact ih.applyChange change
  | addCodegen _ option ih => exact ih.of_eq rfl rfl

/-! ## Kinds and paths as text -/

def otherKinds (flags : Flags) : List String := flags.otherEmits.map Setting.text

def artifactKinds (flags : Flags) : List String :=
  ((Artifact.all.filter flags.emits).map flags.emitSetting).map Setting.text

theorem emitKinds_eq (flags : Flags) :
    flags.emitKinds = flags.otherKinds ++ flags.artifactKinds := List.map_append

/-- The paths that were given for artifacts, under their names. -/
def emitPaths (flags : Flags) : List (String × String) :=
  Artifact.all.filterMap fun a => (flags.emitPath a).map fun path => (a.name, path)

theorem trimmed_of_strip_eq {s : String} (h : Text.strip s = s) :
    Text.Trimmed Text.isBlank s.toList := by
  have htrim := Text.trimmed_trim Text.isBlank s.toList
  rwa [← Text.toList_strip, h] at htrim

theorem kindName_text {item : Setting} (h : item.Listable) : kindName item.text = item.key := by
  rw [kindName, Setting.ofString_text h.key]

theorem Other.kind {item : Setting} (h : Other item) :
    ',' ∉ item.text.toList ∧ Text.Trimmed Text.isBlank item.text.toList ∧
      kindName item.text ∉ ["", "llvm-ir", "asm"] := by
  refine ⟨h.listable.comma, trimmed_of_strip_eq h.listable.strip, ?_⟩
  rw [kindName_text h.listable]
  have hllvm := Artifact.name_ne_of_ofName? h.artifact .llvmIr
  have hasm := Artifact.name_ne_of_ofName? h.artifact .asm
  simpa [h.key, Artifact.name, eq_comm] using And.intro hllvm hasm

theorem path_of_listable {name path : String} (h : Setting.Listable ⟨name, some path⟩) :
    ',' ∉ path.toList ∧ ∀ c ∈ path.toList.getLast?, Text.isBlank c = false := by
  have htext : (Setting.text ⟨name, some path⟩).toList = name.toList ++ '=' :: path.toList := by
    simp [Setting.text]
  refine ⟨fun hcomma => h.comma ?_, fun c hc => (trimmed_of_strip_eq h.strip).last c ?_⟩
  · rw [htext]
    exact List.mem_append_right _ (List.mem_cons_of_mem _ hcomma)
  · rw [htext, List.getLast?_append, List.getLast?_cons, Option.mem_def.1 hc]
    rfl

/-! ## Names of kinds -/

theorem Emitting.map_kindName_otherKinds (h : flags.Emitting) :
    flags.otherKinds.map kindName = flags.otherEmits.map Setting.key := by
  rw [otherKinds, List.map_map]
  exact List.map_congr_left fun item hi => kindName_text (h.others item hi).listable

theorem Emitting.map_kindName_artifactKinds (h : flags.Emitting) :
    flags.artifactKinds.map kindName = (Artifact.all.filter flags.emits).map Artifact.name := by
  rw [artifactKinds, List.map_map, List.map_map]
  refine List.map_congr_left fun a ha => kindName_text (h.listable _ ?_)
  exact List.mem_append_right _ (List.mem_map_of_mem ha)

theorem Emitting.name_not_mem_otherKinds (h : flags.Emitting) (a : Artifact) :
    a.name ∉ flags.otherKinds.map kindName := by
  rw [h.map_kindName_otherKinds]
  intro hmem
  obtain ⟨item, hi, hname⟩ := List.mem_map.1 hmem
  exact Artifact.name_ne_of_ofName? (h.others item hi).artifact a hname.symm

theorem Emitting.name_mem_emitKinds_iff (h : flags.Emitting) (a : Artifact) :
    a.name ∈ flags.emitKinds.map kindName ↔ flags.emits a = true := by
  rw [emitKinds_eq, List.map_append, List.mem_append, or_iff_right (h.name_not_mem_otherKinds a),
    h.map_kindName_artifactKinds, List.mem_map]
  constructor
  · rintro ⟨b, hb, hname⟩
    rw [Artifact.name_inj] at hname
    exact hname ▸ (List.mem_filter.1 hb).2
  · intro hemits
    exact ⟨a, List.mem_filter.2 ⟨by cases a <;> decide, hemits⟩, rfl⟩

theorem Emitting.sublist_artifactKinds (h : flags.Emitting) :
    (flags.artifactKinds.map kindName).Sublist ["llvm-ir", "asm"] := by
  rw [h.map_kindName_artifactKinds]
  exact List.filter_sublist.map Artifact.name

theorem Emitting.nodup_emitKinds (h : flags.Emitting) : (flags.emitKinds.map kindName).Nodup := by
  rw [emitKinds_eq, List.map_append, List.nodup_append]
  refine ⟨?_, h.sublist_artifactKinds.nodup (by decide), fun name hother found hfound => ?_⟩
  · rw [h.map_kindName_otherKinds]
    exact h.distinct
  · rintro rfl
    rw [h.map_kindName_artifactKinds] at hfound
    obtain ⟨a, -, rfl⟩ := List.mem_map.1 hfound
    exact h.name_not_mem_otherKinds a hother

/-! ## Main result -/

/-- Let arguments and operations lead to a state. No other kind holds a comma, has white space at an
end, or has no name or that of an artifact. The names of all kinds are distinct; an artifact is
among them exactly if it is emitted, and the artifacts stand behind the others. The paths that were
given are those of artifacts, hold no comma and have no white space at the end. And the kinds that
are listed, if there are any, are the pieces between the commas. -/
theorem Reached.kinds_apart (h : flags.Reached) :
    (∀ kind ∈ flags.otherKinds, ',' ∉ kind.toList ∧ Text.Trimmed Text.isBlank kind.toList ∧
      kindName kind ∉ ["", "llvm-ir", "asm"]) ∧
    (flags.emitKinds.map kindName).Nodup ∧
    ("llvm-ir" ∈ flags.emitKinds.map kindName ↔ flags.emitLlvmIr = true) ∧
    ("asm" ∈ flags.emitKinds.map kindName ↔ flags.emitAsm = true) ∧
    (∃ artifacts, flags.emitKinds = flags.otherKinds ++ artifacts ∧
      (artifacts.map kindName).Sublist ["llvm-ir", "asm"]) ∧
    (∀ entry ∈ flags.emitPaths, entry.1 ∈ ["llvm-ir", "asm"] ∧ ',' ∉ entry.2.toList ∧
      ∀ c ∈ entry.2.toList.getLast?, Text.isBlank c = false) ∧
    (flags.emitKinds ≠ [] →
      ((",".intercalate flags.emitKinds).toList.splitOn ',').map String.ofList =
        flags.emitKinds) := by
  have hemit := h.emitting
  refine ⟨?_, hemit.nodup_emitKinds, hemit.name_mem_emitKinds_iff .llvmIr,
    hemit.name_mem_emitKinds_iff .asm,
    ⟨flags.artifactKinds, flags.emitKinds_eq, hemit.sublist_artifactKinds⟩, ?_, ?_⟩
  · intro kind hkind
    obtain ⟨item, hi, rfl⟩ := List.mem_map.1 hkind
    exact (hemit.others item hi).kind
  · intro entry hentry
    obtain ⟨a, -, ha⟩ := List.mem_filterMap.1 hentry
    obtain ⟨path, hpath, rfl⟩ := Option.map_eq_some_iff.1 ha
    have hname : a.name ∈ ["llvm-ir", "asm"] := by cases a <;> decide
    exact ⟨hname, path_of_listable (hemit.paths a path hpath)⟩
  · intro hne
    have hs : flags.emitSettings ≠ [] := by simpa [emitKinds] using hne
    rw [emitKinds, splitOn_intercalate_text hs hemit.listable, List.map_map]
    exact List.map_congr_left fun item _ => String.ofList_toList

/-- Commas, blanks and equals signs where they stand in the way, and an option that is added as it
is. -/
theorem Reached.kinds_apart_mixed :
    let args := ["main.rs", "--emit= link=a b ,asm =x,=y,, llvm-ir= o ll ,link", "-Cllvm-args=p"]
    let flags := ((Change.recordEmit "mir, asm=a=b ,asm").apply (Flags.ofArgs args)).addCodegen
      ⟨"a=b", none⟩
    flags.Reached ∧
      flags.emitKinds = ["link=a b", "asm =x", "mir", "llvm-ir= o ll", "asm=a=b"] ∧
      (flags.emitKinds.map kindName).Nodup ∧
      ((",".intercalate flags.emitKinds).toList.splitOn ',').map String.ofList =
        flags.emitKinds := by
  intro args flags
  have hreached : flags.Reached := .addCodegen (.change (.ofArgs args) _) _
  obtain ⟨-, hnames, -, -, -, -, hpieces⟩ := hreached.kinds_apart
  have hkinds : flags.emitKinds = ["link=a b", "asm =x", "mir", "llvm-ir= o ll", "asm=a=b"] := by
    decide +kernel
  exact ⟨hreached, hkinds, hnames, hpieces (by simp [hkinds])⟩

end Flags

end CompilerCommands.Rustc
