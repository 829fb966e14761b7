import CompilerCommands.Proofs.Text.Trim
import CompilerCommands.Rustc.Flags
import Mathlib.Data.List.Nodup

/-!
# Kinds to emit

The kinds of an emission are recorded so that they can be listed again (`Emitting`): no kind holds a
comma or has white space at an end, and kinds other than the artifacts have distinct keys that are
not empty. A state records the list of its own kinds as exactly these kinds.
-/

namespace CompilerCommands.Rustc

/-! ## Between commas -/

/-- Can stand between commas and is read as itself there. -/
structure Setting.Listable (item : Setting) : Prop where
  comma : ',' ∉ item.text.toList
  strip : Text.strip item.text = item.text
  key : '=' ∉ item.key.toList

theorem listable_of_mem_emitItems {kinds : String} {item : Setting}
    (h : item ∈ Flags.emitItems kinds) : item.Listable := by
  obtain ⟨piece, hp, rfl⟩ := List.mem_map.1 h
  refine ⟨?_, ?_, Setting.not_mem_key_ofString _⟩
  · rw [Setting.text_ofString, Text.toList_strip, String.toList_ofList]
    exact fun hc => Text.not_mem_of_mem_splitOn hp (Text.trim_subset _ _ hc)
  · rw [Setting.text_ofString, Text.strip_strip]

theorem splitOn_intercalate_text {items : List Setting} (hne : items ≠ [])
    (h : ∀ item ∈ items, item.Listable) :
    (",".intercalate (items.map Setting.text)).toList.splitOn ',' = items.map (·.text.toList) := by
  rw [String.toList_intercalate, List.map_map]
  refine List.splitOn_intercalate ',' ?_ (by simpa using hne)
  intro piece hp
  obtain ⟨item, hi, rfl⟩ := List.mem_map.1 hp
  exact (h item hi).comma

theorem emitItems_intercalate {items : List Setting} (hne : items ≠ [])
    (h : ∀ item ∈ items, item.Listable) :
    Flags.emitItems (",".intercalate (items.map Setting.text)) = items := by
  rw [Flags.emitItems, splitOn_intercalate_text hne h, List.map_map]
  conv_rhs => rw [← List.map_id items]
  refine List.map_congr_left fun item hi => ?_
  simp only [Function.comp_apply, String.ofList_toList, (h item hi).strip, id]
  exact Setting.ofString_text (h item hi).key

/-! ## Names of artifacts -/

namespace Artifact

theorem name_ne_empty (a : Artifact) : a.name ≠ "" := by cases a <;> decide

theorem not_mem_name (a : Artifact) : '=' ∉ a.name.toList := by cases a <;> decide

theorem name_inj {a b : Artifact} : a.name = b.name ↔ a = b := by cases a <;> cases b <;> decide

theorem name_ne_of_ofName? {name : String} (h : ofName? name = none) (a : Artifact) :
    a.name ≠ name := by
  rintro rfl
  rw [ofName?_name] at h
  cases h

end Artifact

/-! ## Recording one kind -/

namespace Flags

variable {flags : Flags} {item : Setting}

@[simp] theorem otherEmits_setEmits (flags : Flags) (a : Artifact) (b : Bool) :
    (flags.setEmits a b).otherEmits = flags.otherEmits := by cases a <;> rfl

@[simp] theorem otherEmits_setEmitPath (flags : Flags) (a : Artifact) (p : String) :
    (flags.setEmitPath a p).otherEmits = flags.otherEmits := by cases a <;> rfl

theorem emitPath_setEmitPath (flags : Flags) (a b : Artifact) (p : String) :
    (flags.setEmitPath a p).emitPath b = if b = a then some p else flags.emitPath b := by
  cases a <;> cases b <;> rfl

theorem name_of_ofName? {name : String} {a : Artifact} (h : Artifact.ofName? name = some a) :
    name = a.name := by
  have hn := List.find?_some h
  exact (of_decide_eq_true hn).symm

theorem kind_cases (item : Setting) :
    item.key = "" ∨ (∃ a : Artifact, item.key = a.name) ∨
      (item.key ≠ "" ∧ Artifact.ofName? item.key = none) := by
  by_cases hempty : item.key = ""
  · exact .inl hempty
  · cases ha : Artifact.ofName? item.key with
    | some a => exact .inr (.inl ⟨a, name_of_ofName? ha⟩)
    | none => exact .inr (.inr ⟨hempty, rfl⟩)

theorem recordItem_of_empty (h : item.key = "") (flags : Flags) : flags.recordItem item = flags :=
  if_pos h

theorem recordItem_of_artifact {a : Artifact} (h : item.key = a.name) (flags : Flags) :
    flags.recordItem item = match item.value with
      | some path => (flags.setEmits a true).setEmitPath a path
      | none => flags.setEmits a true := by
  cases hvalue : item.value <;>
    simp only [recordItem, h, hvalue, a.name_ne_empty, if_false, Artifact.ofName?_name]

theorem recordItem_of_other (hne : item.key ≠ "") (h : Artifact.ofName? item.key = none)
    (flags : Flags) :
    flags.recordItem item = if flags.otherEmits.any (·.key = item.key) then flags
      else { flags with otherEmits := flags.otherEmits ++ [item] } := by
  simp only [recordItem, hne, if_false, h]

/-- Recording a kind changes nothing, switches an artifact on, gives it a path too, or adds a kind
that is new. -/
theorem recordItem_cases (flags : Flags) (item : Setting) :
    flags.recordItem item = flags ∨
    (∃ a : Artifact, flags.recordItem item = flags.setEmits a true) ∨
    (∃ (a : Artifact) (path : String), item = ⟨a.name, some path⟩ ∧
      flags.recordItem item = (flags.setEmits a true).setEmitPath a path) ∨
    (item.key ≠ "" ∧ Artifact.ofName? item.key = none ∧
      (∀ other ∈ flags.otherEmits, other.key ≠ item.key) ∧
      flags.recordItem item = { flags with otherEmits := flags.otherEmits ++ [item] }) := by
  obtain hempty | ⟨a, ha⟩ | ⟨hne, hother⟩ := kind_cases item
  · exact .inl (recordItem_of_empty hempty flags)
  · rw [recordItem_of_artifact ha]
    obtain ⟨key, value⟩ := item
    cases value with
    | none => exact .inr (.inl ⟨a, rfl⟩)
    | some path => exact .inr (.inr (.inl ⟨a, path, by rw [← ha], rfl⟩))
  · rw [recordItem_of_other hne hother]
    by_cases hany : flags.otherEmits.any (·.key = item.key) = true
    · exact .inl (if_pos hany)
    · exact .inr (.inr (.inr ⟨hne, hother, by simpa using hany, if_neg hany⟩))

theorem recordEmit_frame {α : Type} (view : Flags → α)
    (hemits : ∀ flags a b, view (setEmits flags a b) = view flags)
    (hpath : ∀ flags a path, view (setEmitPath flags a path) = view flags)
    (hothers : ∀ flags others, view { flags with otherEmits := others } = view flags)
    (flags : Flags) (kinds : String) : view (flags.recordEmit kinds) = view flags := by
  unfold recordEmit
  induction emitItems kinds generalizing flags with
  | nil => rfl
  | cons item rest ih =>
    rw [List.foldl_cons, ih]
    obtain he | ⟨a, he⟩ | ⟨a, path, -, he⟩ | ⟨-, -, -, he⟩ := recordItem_cases flags item
    · rw [he]
    · rw [he, hemits]
    · rw [he, hpath, hemits]
    · rw [he, hothers]

@[simp] theorem retained_recordEmit (flags : Flags) (kinds : String) :
    (flags.recordEmit kinds).retained = flags.retained :=
  recordEmit_frame retained (by rintro _ (_ | _) _ <;> rfl) (by rintro _ (_ | _) _ <;> rfl)
    (fun _ _ => rfl) flags kinds

@[simp] theorem codegen_recordEmit (flags : Flags) (kinds : String) :
    (flags.recordEmit kinds).codegen = flags.codegen :=
  recordEmit_frame codegen (by rintro _ (_ | _) _ <;> rfl) (by rintro _ (_ | _) _ <;> rfl)
    (fun _ _ => rfl) flags kinds

@[simp] theorem optimize_recordEmit (flags : Flags) (kinds : String) :
    (flags.recordEmit kinds).optimize = flags.optimize :=
  recordEmit_frame optimize (by rintro _ (_ | _) _ <;> rfl) (by rintro _ (_ | _) _ <;> rfl)
    (fun _ _ => rfl) flags kinds

@[simp] theorem filter_recordEmit (flags : Flags) (kinds : String) :
    (flags.recordEmit kinds).filter = flags.filter :=
  recordEmit_frame filter (by rintro _ (_ | _) _ <;> rfl) (by rintro _ (_ | _) _ <;> rfl)
    (fun _ _ => rfl) flags kinds

/-! ## What is recorded can be listed -/

/-- A kind that is no artifact, as it is kept. -/
structure Other (item : Setting) : Prop where
  listable : item.Listable
  key : item.key ≠ ""
  artifact : Artifact.ofName? item.key = none

/-- The kinds to emit can be listed and read back. -/
structure Emitting (flags : Flags) : Prop where
  others : ∀ item ∈ flags.otherEmits, Other item
  distinct : (flags.otherEmits.map Setting.key).Nodup
  paths : ∀ a path, flags.emitPath a = some path → Setting.Listable ⟨a.name, some path⟩

theorem Emitting.of_eq {other : Flags} (h : flags.Emitting)
    (ho : other.otherEmits = flags.otherEmits) (hp : other.emitPath = flags.emitPath) :
    other.Emitting where
  others := by rw [ho]; exact h.others
  distinct := by rw [ho]; exact h.distinct
  paths := by rw [hp]; exact h.paths

theorem Emitting.setEmits (h : flags.Emitting) (a : Artifact) (b : Bool) :
    (flags.setEmits a b).Emitting :=
  h.of_eq (otherEmits_setEmits flags a b) (funext fun c => emitPath_setEmits flags a c b)

theorem Emitting.recordItem (h : flags.Emitting) (hi : item.Listable) :
    (flags.recordItem item).Emitting := by
  obtain he | ⟨a, he⟩ | ⟨a, path, rfl, he⟩ | ⟨hkey, ha, hnew, he⟩ := recordItem_cases flags item
  · rw [he]
    exact h
  · rw [he]
    exact h.setEmits a true
  · rw [he]
    refine ⟨by simpa using h.others, by simpa using h.distinct, ?_⟩
    intro b p hp
    rw [emitPath_setEmitPath] at hp
    split at hp
    · next hb =>
      cases hp
      exact hb ▸ hi
    · exact h.paths b p (by simpa using hp)
  · rw [he]
    refine ⟨?_, ?_, h.paths⟩
    · intro other ho
      rcases List.mem_append.1 ho with ho | ho
      · exact h.others other ho
      · rw [List.mem_singleton.1 ho]
        exact ⟨hi, hkey, ha⟩
    · rw [List.map_append]
      refine h.distinct.append (List.nodup_singleton _) ?_
      simpa [List.disjoint_singleton] using hnew

theorem Emitting.recordEmit (h : flags.Emitting) (kinds : String) :
    (flags.recordEmit kinds).Emitting := by
  unfold Flags.recordEmit
  have hall : ∀ item ∈ emitItems kinds, item.Listable := fun _ => listable_of_mem_emitItems
  generalize emitItems kinds = items at hall
  induction items generalizing flags with
  | nil => exact h
  | cons item rest ih =>
    exact ih (h.recordItem (hall item (by simp))) fun i hi => hall i (List.mem_cons_of_mem _ hi)

/-! ## Recording a state's own kinds -/

theorem listable_artifact (a : Artifact) : Setting.Listable ⟨a.name, none⟩ := by
  cases a <;> exact ⟨by decide, by decide +kernel, by decide⟩

theorem Emitting.listable (h : flags.Emitting) : ∀ item ∈ flags.emitSettings, item.Listable := by
  intro item hi
  rcases List.mem_append.1 hi with hi | hi
  · exact (h.others item hi).listable
  · obtain ⟨a, -, rfl⟩ := List.mem_map.1 hi
    unfold emitSetting
    cases hp : flags.emitPath a with
    | none => exact listable_artifact a
    | some path => exact h.paths a path hp

theorem recordItem_artifact (flags asked : Flags) (a : Artifact) :
    flags.recordItem (asked.emitSetting a) = match asked.emitPath a with
      | some path => (flags.setEmits a true).setEmitPath a path
      | none => flags.setEmits a true := recordItem_of_artifact rfl flags

theorem recordItem_other (ho : Other item)
    (hnew : ∀ other ∈ flags.otherEmits, other.key ≠ item.key) :
    flags.recordItem item = { flags with otherEmits := flags.otherEmits ++ [item] } := by
  rw [recordItem_of_other ho.key ho.artifact, if_neg (by simpa using hnew)]

theorem foldl_recordItem_others {items : List Setting} (ho : ∀ item ∈ items, Other item)
    (hd : ((flags.otherEmits ++ items).map Setting.key).Nodup) :
    items.foldl recordItem flags = { flags with otherEmits := flags.otherEmits ++ items } := by
  induction items generalizing flags with
  | nil => simp
  | cons item rest ih =>
    have hsplit : flags.otherEmits ++ item :: rest = flags.otherEmits ++ [item] ++ rest := by simp
    have hnew : ∀ other ∈ flags.otherEmits, other.key ≠ item.key := by
      rw [List.map_append, List.nodup_append] at hd
      exact fun other h => hd.2.2 _ (List.mem_map_of_mem h) _ (by simp)
    rw [hsplit] at hd
    rw [List.foldl_cons, recordItem_other (ho item (by simp)) hnew,
      ih (fun i hi => ho i (List.mem_cons_of_mem _ hi)) hd, hsplit]

theorem foldl_recordItem_artifacts (flags : Flags) (retained : List String)
    (others : List Setting) :
    ((Artifact.all.filter flags.emits).map flags.emitSetting).foldl recordItem
        { retained := retained, emitLlvmIr := false, emitAsm := false, otherEmits := others } =
      { retained := retained, emitLlvmIr := flags.emitLlvmIr, emitAsm := flags.emitAsm,
        otherEmits := others,
        llvmIrPath := if flags.emitLlvmIr then flags.llvmIrPath else none,
        asmPath := if flags.emitAsm then flags.asmPath else none } := by
  rw [List.foldl_map, List.foldl_filter]
  simp only [Artifact.all, List.foldl_cons, List.foldl_nil, emits]
  by_cases hl : flags.emitLlvmIr = true <;> by_cases ha : flags.emitAsm = true <;>
    cases hlp : flags.llvmIrPath <;> cases hap : flags.asmPath <;>
    simp [recordItem_artifact, emitPath, setEmits, setEmitPath, hl, ha, hlp, hap]

/-- Where nothing is emitted yet, the kinds of a state come to what that state emits. -/
theorem recordEmit_emitKinds (h : flags.Emitting) (hne : flags.emitKinds ≠ [])
    (retained : List String) :
    recordEmit { retained := retained, emitLlvmIr := false, emitAsm := false }
        (",".intercalate flags.emitKinds) =
      { retained := retained, emitLlvmIr := flags.emitLlvmIr, emitAsm := flags.emitAsm,
        otherEmits := flags.otherEmits,
        llvmIrPath := if flags.emitLlvmIr then flags.llvmIrPath else none,
        asmPath := if flags.emitAsm then flags.asmPath else none } := by
  have hs : flags.emitSettings ≠ [] := by simpa [emitKinds] using hne
  rw [recordEmit, emitKinds, emitItems_intercalate hs h.listable, emitSettings, List.foldl_append,
    foldl_recordItem_others h.others (by simpa using h.distinct)]
  exact foldl_recordItem_artifacts flags retained flags.otherEmits

end Flags

end CompilerCommands.Rustc
