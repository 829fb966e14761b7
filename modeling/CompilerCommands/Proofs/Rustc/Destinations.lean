import CompilerCommands.Proofs.Rustc.Listing

/-!
# Destinations

An emission may name a path for each kind that it lists. Kinds are repeated with and without a path:
of an artifact the last path that is named counts, of another kind what is said first. So a path
that is named for another kind after the kind has been listed is lost.
-/

namespace CompilerCommands.Rustc

variable {flags : Flags} {item : Setting} {items : List Setting} {kind path : String}

/-! ## What emissions list -/

/-- The kinds that the emissions among arguments list, in order. -/
def readKinds (args : List String) : List Setting :=
  ((ArgUnit.ofArgs args).filterMap ArgUnit.emit?).flatMap Flags.emitItems

def lastPath? (kind : String) (items : List Setting) : Option String :=
  ((items.filter (·.key = kind)).filterMap Setting.value).getLast?

theorem lastPath?_cons (kind : String) (item : Setting) (rest : List Setting) :
    lastPath? kind (item :: rest) =
      (lastPath? kind rest).or (if item.key = kind then item.value else none) := by
  unfold lastPath?
  by_cases hkey : item.key = kind
  · rw [List.filter_cons_of_pos (by simpa using hkey), if_pos hkey, List.filterMap_cons]
    cases item.value with
    | none => rw [Option.or_none]
    | some path => rw [List.getLast?_cons]; cases List.getLast? _ <;> rfl
  · rw [List.filter_cons_of_neg (by simpa using hkey), if_neg hkey, Option.or_none]

theorem mem_of_lastPath? (h : lastPath? kind items = some path) : ⟨kind, some path⟩ ∈ items := by
  obtain ⟨⟨key, value⟩, hitem, hvalue⟩ := List.mem_filterMap.1 (List.mem_of_getLast? h)
  obtain ⟨hmem, hkey⟩ := List.mem_filter.1 hitem
  simp_all

namespace Flags

/-! ## Recording one kind -/

theorem emits_setEmits (flags : Flags) (a b : Artifact) :
    (flags.setEmits a true).emits b = (flags.emits b || decide (a = b)) := by
  cases a <;> cases b <;> simp [emits, setEmits]

theorem emits_recordItem (flags : Flags) (item : Setting) (a : Artifact) :
    (flags.recordItem item).emits a = (flags.emits a || decide (item.key = a.name)) := by
  obtain hempty | ⟨b, hb⟩ | ⟨hne, hother⟩ := kind_cases item
  · simp [recordItem_of_empty hempty, hempty, a.name_ne_empty.symm]
  · rw [recordItem_of_artifact hb, hb]
    cases item.value <;> simp [emits_setEmits, Artifact.name_inj]
  · have hname : item.key ≠ a.name := (Artifact.name_ne_of_ofName? hother a).symm
    rw [recordItem_of_other hne hother, decide_eq_false hname, Bool.or_false]
    split <;> rfl

theorem emitPath_recordItem (flags : Flags) (item : Setting) (a : Artifact) :
    (flags.recordItem item).emitPath a =
      (if item.key = a.name then item.value else none).or (flags.emitPath a) := by
  obtain hempty | ⟨b, hb⟩ | ⟨hne, hother⟩ := kind_cases item
  · simp [recordItem_of_empty hempty, hempty, a.name_ne_empty.symm]
  · rw [recordItem_of_artifact hb, hb]
    cases item.value with
    | none => simp
    | some path =>
      rw [emitPath_setEmitPath, emitPath_setEmits]
      by_cases hab : a = b <;> simp [Artifact.name_inj, hab, eq_comm]
  · have hname : item.key ≠ a.name := (Artifact.name_ne_of_ofName? hother a).symm
    rw [recordItem_of_other hne hother, if_neg hname, Option.none_or]
    split <;> rfl

theorem find?_otherEmits_recordItem (hne : kind ≠ "") (hother : Artifact.ofName? kind = none)
    (flags : Flags) (item : Setting) :
    (flags.recordItem item).otherEmits.find? (·.key = kind) =
      (flags.otherEmits.find? (·.key = kind)).or (if item.key = kind then some item else none) := by
  obtain hempty | ⟨a, ha⟩ | ⟨hkey, hnone⟩ := kind_cases item
  · rw [recordItem_of_empty hempty, hempty, if_neg hne.symm, Option.or_none]
  · have hname : item.key ≠ kind := ha ▸ Artifact.name_ne_of_ofName? hother a
    rw [recordItem_of_artifact ha, if_neg hname, Option.or_none]
    cases item.value <;> simp
  · rw [recordItem_of_other hkey hnone]
    split
    · next hany =>
      split
      · next hk =>
        obtain ⟨first, hmem, hfirst⟩ := List.any_eq_true.1 hany
        cases hfind : flags.otherEmits.find? (·.key = kind) with
        | none => exact absurd (hk ▸ hfirst) (List.find?_eq_none.1 hfind first hmem)
        | some found => rfl
      · rw [Option.or_none]
    · rw [List.find?_append, List.find?_singleton]
      simp

/-! ## Recording all kinds -/

theorem emits_foldl_recordItem (flags : Flags) (items : List Setting) (a : Artifact) :
    (items.foldl recordItem flags).emits a =
      (flags.emits a || items.any (·.key = a.name)) := by
  induction items generalizing flags with
  | nil => simp
  | cons item rest ih => rw [List.foldl_cons, ih, emits_recordItem, List.any_cons, Bool.or_assoc]

theorem emitPath_foldl_recordItem (flags : Flags) (items : List Setting) (a : Artifact) :
    (items.foldl recordItem flags).emitPath a =
      (lastPath? a.name items).or (flags.emitPath a) := by
  induction items generalizing flags with
  | nil => rfl
  | cons item rest ih =>
    rw [List.foldl_cons, ih, emitPath_recordItem, lastPath?_cons, Option.or_assoc]

theorem find?_otherEmits_foldl_recordItem (hne : kind ≠ "") (hother : Artifact.ofName? kind = none)
    (flags : Flags) (items : List Setting) :
    (items.foldl recordItem flags).otherEmits.find? (·.key = kind) =
      (flags.otherEmits.find? (·.key = kind)).or (items.find? (·.key = kind)) := by
  induction items generalizing flags with
  | nil => simp
  | cons item rest ih =>
    rw [List.foldl_cons, ih, find?_otherEmits_recordItem hne hother, Option.or_assoc,
      List.find?_cons]
    by_cases hkey : item.key = kind <;> simp [hkey]

/-! ## What a state lists for one kind -/

section Arguments

variable {args : List String}

theorem onlyEmission_ofArgs (h : readKinds args ≠ []) :
    (ofArgs args).onlyEmission =
      (readKinds args).foldl recordItem { emitLlvmIr := false, emitAsm := false } := by
  rw [ofArgs, onlyEmission_ofUnits]
  unfold readKinds at h ⊢
  cases hemits : (ArgUnit.ofArgs args).filterMap ArgUnit.emit? with
  | nil => rw [hemits] at h; exact absurd rfl h
  | cons kinds rest => rw [List.foldl_flatMap]; rfl

theorem emits_ofArgs (h : readKinds args ≠ []) (a : Artifact) :
    (ofArgs args).emits a = (readKinds args).any (·.key = a.name) := by
  have hfold := emits_foldl_recordItem { emitLlvmIr := false, emitAsm := false } (readKinds args) a
  rw [← onlyEmission_ofArgs h] at hfold
  cases a <;> exact hfold

theorem emitPath_ofArgs (h : readKinds args ≠ []) (a : Artifact) :
    (ofArgs args).emitPath a = lastPath? a.name (readKinds args) := by
  have hfold :=
    emitPath_foldl_recordItem { emitLlvmIr := false, emitAsm := false } (readKinds args) a
  rw [← onlyEmission_ofArgs h] at hfold
  cases a <;> exact hfold.trans (Option.or_none ..)

theorem find?_otherEmits_ofArgs (h : readKinds args ≠ []) (hne : kind ≠ "")
    (hother : Artifact.ofName? kind = none) :
    (ofArgs args).otherEmits.find? (·.key = kind) = (readKinds args).find? (·.key = kind) := by
  have hfold := find?_otherEmits_foldl_recordItem hne hother
    { emitLlvmIr := false, emitAsm := false } (readKinds args)
  rw [← onlyEmission_ofArgs h] at hfold
  exact hfold

end Arguments

theorem filter_key_eq_find? {settings : List Setting} (h : (settings.map Setting.key).Nodup)
    (kind : String) :
    settings.filter (·.key = kind) = (settings.find? (·.key = kind)).toList := by
  induction settings with
  | nil => rfl
  | cons first rest ih =>
    obtain ⟨hfirst, hrest⟩ := List.nodup_cons.1 h
    by_cases hkey : first.key = kind
    · have hnone : rest.filter (·.key = kind) = [] := by
        refine List.filter_eq_nil_iff.2 fun other hother hsame => hfirst ?_
        rw [hkey, ← of_decide_eq_true hsame]
        exact List.mem_map_of_mem hother
      simp [hkey, hnone]
    · simpa [hkey] using ih hrest

theorem Emitting.filter_emitSettings_other (h : flags.Emitting)
    (hother : Artifact.ofName? kind = none) :
    flags.emitSettings.filter (·.key = kind) =
      (flags.otherEmits.find? (·.key = kind)).toList := by
  have hartifacts : ((Artifact.all.filter flags.emits).map flags.emitSetting).filter
      (·.key = kind) = [] := by
    refine List.filter_eq_nil_iff.2 fun item hitem => ?_
    obtain ⟨a, -, rfl⟩ := List.mem_map.1 hitem
    exact fun hkey => Artifact.name_ne_of_ofName? hother a (of_decide_eq_true hkey)
  rw [emitSettings, List.filter_append, hartifacts, List.append_nil, filter_key_eq_find? h.distinct]

theorem filter_emitSettings_ofArgs {args : List String} (hne : kind ≠ "")
    (hpath : lastPath? kind (readKinds args) = some path) :
    (ofArgs args).emitSettings.filter (·.key = kind) =
      [⟨kind, if (Artifact.ofName? kind).isSome then some path
        else ((readKinds args).find? (·.key = kind)).bind Setting.value⟩] := by
  have hmem := mem_of_lastPath? hpath
  have hread : readKinds args ≠ [] := List.ne_nil_of_mem hmem
  have h : (ofArgs args).Emitting := (readable_ofUnits _).emitting
  cases hkind : Artifact.ofName? kind with
  | some a =>
    obtain rfl := name_of_ofName? hkind
    have hemits : (ofArgs args).emits a = true := by
      rw [emits_ofArgs hread, List.any_eq_true]
      exact ⟨_, hmem, decide_eq_true rfl⟩
    rw [h.filter_emitSettings_artifact, if_pos hemits, emitSetting, emitPath_ofArgs hread, hpath]
    rfl
  | none =>
    rw [h.filter_emitSettings_other hkind, find?_otherEmits_ofArgs hread hne hkind]
    cases hfirst : (readKinds args).find? (·.key = kind) with
    | none => exact absurd (decide_eq_true rfl) (List.find?_eq_none.1 hfirst _ hmem)
    | some first =>
      have hkey : first.key = kind := by simpa using List.find?_some hfirst
      rw [← hkey]
      rfl

end Flags

/-! ## Main result -/

/-- If emissions name a path for a kind, the state that they lead to lists the kind once: an
artifact with the path that is named last, another kind as it is named first. So the last path is
listed exactly if the kind is an artifact or the path is named where the kind is listed first. -/
theorem destination_listed_iff {args : List String} (hne : kind ≠ "")
    (hpath : lastPath? kind (readKinds args) = some path) :
    let kinds := (Flags.ofArgs args).listedKinds
    let first? := (readKinds args).find? (·.key = kind)
    let artifact := (Artifact.ofName? kind).isSome
    (kinds.map Setting.ofString).filter (·.key = kind) =
        [⟨kind, if artifact then some path else first?.bind Setting.value⟩] ∧
      (kind ++ "=" ++ path ∈ kinds ↔ artifact ∨ first? = some ⟨kind, some path⟩) := by
  intro kinds first? artifact
  have h : (Flags.ofArgs args).Emitting := (Flags.readable_ofUnits _).emitting
  have hfilter := Flags.filter_emitSettings_ofArgs hne hpath
  refine ⟨by rw [h.map_ofString_listedKinds, hfilter], ?_⟩
  have hkey : '=' ∉ kind.toList := by
    obtain ⟨listed, -, hitem⟩ := List.mem_flatMap.1 (mem_of_lastPath? hpath)
    exact (listable_of_mem_emitItems hitem).key
  have hlisted : kind ++ "=" ++ path ∈ kinds ↔
      ⟨kind, some path⟩ ∈ (Flags.ofArgs args).emitSettings.filter (·.key = kind) := by
    rw [List.mem_filter, and_iff_left (decide_eq_true rfl)]
    exact @Flags.Emitting.text_mem_listedKinds _ ⟨kind, some path⟩ h hkey
  have hfirst : first?.bind Setting.value = some path ↔ first? = some ⟨kind, some path⟩ := by
    cases hf : first? with
    | none => simp
    | some first =>
      have hk : first.key = kind := by simpa using List.find?_some hf
      obtain ⟨key, value⟩ := first
      simp_all
  rw [hlisted, hfilter, List.mem_singleton, Setting.mk.injEq]
  simp only [true_and]
  split
  · next hartifact => simp [artifact, hartifact]
  · next hartifact => rw [eq_comm, hfirst]; simp [artifact, hartifact]

/-- An artifact is repeated with two paths and without one, another kind with one path, at first. -/
theorem destination_listed_iff_repeated :
    let args := ["--emit=asm=a.s,link=app", "main.rs", "--emit", "asm, link", "--emit=asm=b.s,link",
      "--emit=asm"]
    let kinds := (Flags.ofArgs args).listedKinds
    lastPath? "asm" (readKinds args) = some "b.s" ∧ "asm=b.s" ∈ kinds ∧
      lastPath? "link" (readKinds args) = some "app" ∧ "link=app" ∈ kinds := by
  intro args kinds
  have hasm : lastPath? "asm" (readKinds args) = some "b.s" := by decide +kernel
  have hlink : lastPath? "link" (readKinds args) = some "app" := by decide +kernel
  exact ⟨hasm, (destination_listed_iff (by decide) hasm).2.2 (by decide),
    hlink, (destination_listed_iff (by decide) hlink).2.2 (by decide +kernel)⟩

/-- The path of a kind that has been listed without one is lost. -/
theorem destination_lost :
    let args := ["main.rs", "--emit=link,link=bin/app"]
    lastPath? "link" (readKinds args) = some "bin/app" ∧
      (Flags.ofArgs args).synthesize = ["main.rs", "--emit", "link"] ∧
      "link=bin/app" ∉ (Flags.ofArgs args).listedKinds := by
  decide +kernel

end CompilerCommands.Rustc
