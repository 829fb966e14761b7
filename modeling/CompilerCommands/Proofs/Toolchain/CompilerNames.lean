import CompilerCommands.Proofs.Text.Pieces
import CompilerCommands.Toolchain.Basic

/-!
# The names of compilers

The names of each toolchain as a grammar. A tool is taken for a compiler exactly if its name is in
the grammar, or if it is after a line feed at its end is taken away.
-/

namespace CompilerCommands.Toolchain

/-! ## Grammar -/

def IsNumber (group : List Char) : Prop := group ≠ [] ∧ ∀ c ∈ group, Unicode.isDigit c = true

/-- Numbers with dots between them. -/
inductive Version : List Char → Prop
  | number {group : List Char} (h : IsNumber group) : Version group
  | dot {group rest : List Char} (h : IsNumber group) (hrest : Version rest) :
    Version (group ++ '.' :: rest)

/-- What may stand behind the word of a compiler. -/
inductive VersionMark : List Char → Prop
  | none : VersionMark []
  | hyphen {version : List Char} (h : Version version) : VersionMark ('-' :: version)

def IsTargetGroup (group : List Char) : Prop :=
  group ≠ [] ∧ ∀ c ∈ group, Unicode.isWord c = true ∨ c = '.'

/-- What may stand in front of the word of a compiler of GCC: groups that end in a hyphen each. -/
inductive TargetMark : List Char → Prop
  | none : TargetMark []
  | group {group rest : List Char} (h : IsTargetGroup group) (hrest : TargetMark rest) :
    TargetMark (group ++ '-' :: rest)

def clangWords : List (List Char) := ["clang".toList, "clang++".toList]

def gccWords : List (List Char) := ["gcc".toList, "g++".toList]

/-- The name of a compiler that takes the command lines of clang. -/
inductive CompilerName : List Char → Prop
  | clang {word version : List Char} (hword : word ∈ clangWords) (hversion : VersionMark version) :
    CompilerName (word ++ version)
  | gcc {target word version : List Char} (htarget : TargetMark target) (hword : word ∈ gccWords)
      (hversion : VersionMark version) : CompilerName (target ++ (word ++ version))

/-- A name, and the toolchain that has it. -/
inductive Names : List Char → Toolchain → Prop
  | compiler {name : List Char} (h : CompilerName name) : Names name (.driver .clang)
  | nvcc : Names "nvcc".toList (.driver .nvcc)
  | rustc : Names "rustc".toList .rustc

/-! ## Versions -/

theorem IsNumber.not_mem {group : List Char} (h : IsNumber group) {c : Char}
    (hc : Unicode.isDigit c = false) : c ∉ group := by
  intro hmem
  rw [h.2 c hmem] at hc
  cases hc

theorem Version.isVersion {cs : List Char} (h : Version cs) : isVersion cs = true := by
  have hnumber : ∀ {group : List Char}, IsNumber group →
      (!group.isEmpty && group.all Unicode.isDigit) = true ∧ '.' ∉ group := by
    intro group h
    refine ⟨?_, h.not_mem (by decide +kernel)⟩
    rw [Bool.and_eq_true, List.all_eq_true]
    exact ⟨by simpa using h.1, h.2⟩
  unfold Toolchain.isVersion
  induction h with
  | number h =>
    rw [Text.splitOn_of_not_mem (hnumber h).2, List.all_cons, (hnumber h).1]
    rfl
  | dot h _ ih =>
    rw [Text.splitOn_append_cons_of_not_mem (hnumber h).2, List.all_cons, (hnumber h).1, ih]
    rfl

theorem version_intercalate {groups : List (List Char)} (hne : groups ≠ [])
    (h : ∀ group ∈ groups, IsNumber group) : Version (['.'].intercalate groups) := by
  induction groups with
  | nil => exact absurd rfl hne
  | cons group rest ih =>
    obtain ⟨hgroup, hrest⟩ := List.forall_mem_cons.1 h
    cases rest with
    | nil =>
      rw [List.intercalate_singleton]
      exact .number hgroup
    | cons next others =>
      rw [List.intercalate_cons_cons, List.append_assoc]
      exact .dot hgroup (ih (by simp) hrest)

theorem isVersion_iff {cs : List Char} : isVersion cs = true ↔ Version cs := by
  refine ⟨fun h => ?_, Version.isVersion⟩
  have hcs : ['.'].intercalate (cs.splitOn '.') = cs := List.intercalate_splitOn '.'
  rw [← hcs]
  refine version_intercalate (List.splitOn_ne_nil _ _) fun group hgroup => ?_
  have hall := List.all_eq_true.1 h group hgroup
  rw [Bool.and_eq_true, List.all_eq_true] at hall
  exact ⟨by simpa using hall.1, hall.2⟩

theorem Version.not_mem {cs : List Char} (h : Version cs) {c : Char}
    (hc : Unicode.isDigit c = false) (hdot : c ≠ '.') : c ∉ cs := by
  induction h with
  | number h => exact h.not_mem hc
  | dot h _ ih => simpa [hdot] using ⟨h.not_mem hc, ih⟩

/-! ## Targets -/

theorem isTargetPart_iff {group : List Char} : isTargetPart group = true ↔ IsTargetGroup group := by
  simp [isTargetPart, IsTargetGroup]

theorem IsTargetGroup.not_mem {group : List Char} (h : IsTargetGroup group) {c : Char}
    (hc : Unicode.isWord c = false) (hdot : c ≠ '.') : c ∉ group := by
  intro hmem
  rcases h.2 c hmem with hword | rfl
  · rw [hword] at hc
    cases hc
  · exact hdot rfl

theorem targetMark_flatMap {groups : List (List Char)} (h : ∀ group ∈ groups, IsTargetGroup group) :
    TargetMark (groups.flatMap (· ++ ['-'])) := by
  induction groups with
  | nil => exact .none
  | cons group rest ih =>
    obtain ⟨hgroup, hrest⟩ := List.forall_mem_cons.1 h
    rw [List.flatMap_cons, List.append_assoc]
    exact .group hgroup (ih hrest)

theorem TargetMark.splitOn {target : List Char} (h : TargetMark target) :
    ∃ groups, (∀ group ∈ groups, isTargetPart group = true) ∧
      ∀ rest : List Char, (target ++ rest).splitOn '-' = groups ++ rest.splitOn '-' := by
  induction h with
  | none => exact ⟨[], by simp, fun rest => rfl⟩
  | @group group rest h _ ih =>
    obtain ⟨groups, hgroups, hsplit⟩ := ih
    refine ⟨group :: groups, List.forall_mem_cons.2 ⟨isTargetPart_iff.2 h, hgroups⟩, fun more => ?_⟩
    rw [List.append_assoc, List.cons_append,
      Text.splitOn_append_cons_of_not_mem (h.not_mem (by decide +kernel) (by decide)), hsplit,
      List.cons_append]

theorem TargetMark.not_mem {target : List Char} (h : TargetMark target) {c : Char}
    (hc : Unicode.isWord c = false) (hdot : c ≠ '.') (hhyphen : c ≠ '-') : c ∉ target := by
  induction h with
  | none => exact List.not_mem_nil
  | group h _ ih => simpa [hhyphen] using ⟨h.not_mem hc hdot, ih⟩

/-! ## Names -/

theorem VersionMark.splitOn {version word : List Char} (h : VersionMark version)
    (hword : '-' ∉ word) : version = [] ∧ (word ++ version).splitOn '-' = [word] ∨
      ∃ number, isVersion number = true ∧ (word ++ version).splitOn '-' = [word, number] := by
  cases h with
  | none =>
    rw [List.append_nil]
    exact .inl ⟨rfl, Text.splitOn_of_not_mem hword⟩
  | hyphen h =>
    refine .inr ⟨_, h.isVersion, ?_⟩
    rw [Text.splitOn_append_cons_of_not_mem hword,
      Text.splitOn_of_not_mem (h.not_mem (by decide +kernel) (by decide))]

theorem isClangWord_iff {cs : List Char} : isClangWord cs = true ↔ cs ∈ clangWords := by
  simp [isClangWord, clangWords]

theorem isGccWord_iff {cs : List Char} : isGccWord cs = true ↔ cs ∈ gccWords := by
  simp [isGccWord, gccWords]

theorem not_mem_words : ∀ word ∈ clangWords ++ gccWords, '-' ∉ word ∧ '\n' ∉ word := by decide

theorem isClangName_iff {cs : List Char} : isClangName cs = true ↔
    ∃ word version, word ∈ clangWords ∧ VersionMark version ∧ cs = word ++ version := by
  constructor
  · intro h
    unfold isClangName at h
    split at h
    · next word hsplit =>
      have hcs := Text.eq_flatMap_append_of_splitOn [] hsplit
      exact ⟨word, [], isClangWord_iff.1 h, .none, by simpa using hcs⟩
    · next word number hsplit =>
      have hcs := Text.eq_flatMap_append_of_splitOn [word] hsplit
      obtain ⟨hword, hnumber⟩ := Bool.and_eq_true_iff.1 h
      exact ⟨word, _, isClangWord_iff.1 hword, .hyphen (isVersion_iff.1 hnumber),
        by simpa using hcs⟩
    · cases h
  · rintro ⟨word, version, hword, hversion, rfl⟩
    have hhyphen := (not_mem_words word (List.mem_append_left _ hword)).1
    unfold isClangName
    obtain ⟨-, hsplit⟩ | ⟨number, hnumber, hsplit⟩ := hversion.splitOn hhyphen
    · rw [hsplit]
      exact isClangWord_iff.2 hword
    · rw [hsplit]
      exact Bool.and_eq_true_iff.2 ⟨isClangWord_iff.2 hword, hnumber⟩

theorem isGccName_iff {cs : List Char} : isGccName cs = true ↔
    ∃ target word version, TargetMark target ∧ word ∈ gccWords ∧ VersionMark version ∧
      cs = target ++ (word ++ version) := by
  constructor
  · intro h
    unfold isGccName at h
    split at h
    · cases h
    · next last front hsplit =>
      have htarget : ∀ groups : List (List Char), groups.all isTargetPart = true →
          TargetMark (groups.reverse.flatMap (· ++ ['-'])) := by
        intro groups hgroups
        refine targetMark_flatMap fun group hgroup => ?_
        exact isTargetPart_iff.1 (List.all_eq_true.1 hgroups group (List.mem_reverse.1 hgroup))
      have hcs : cs = front.reverse.flatMap (· ++ ['-']) ++ last := by
        refine Text.eq_flatMap_append_of_splitOn _ ?_
        rw [← List.reverse_cons, ← hsplit, List.reverse_reverse]
      rw [Bool.or_eq_true, Bool.and_eq_true, Bool.and_eq_true] at h
      rcases h with ⟨hlast, hfront⟩ | ⟨hlast, hfront⟩
      · exact ⟨_, last, [], htarget front hfront, isGccWord_iff.1 hlast, .none, by simpa using hcs⟩
      · cases front with
        | nil => cases hfront
        | cons word target =>
          obtain ⟨hword, hgroups⟩ := Bool.and_eq_true_iff.1 hfront
          refine ⟨_, word, _, htarget target hgroups, isGccWord_iff.1 hword,
            .hyphen (isVersion_iff.1 hlast), ?_⟩
          rw [hcs, List.reverse_cons, List.flatMap_append]
          simp
  · rintro ⟨target, word, version, htarget, hword, hversion, rfl⟩
    have hhyphen := (not_mem_words word (List.mem_append_right _ hword)).1
    have hword := isGccWord_iff.2 hword
    obtain ⟨groups, hgroups, hsplit⟩ := htarget.splitOn
    have hall : groups.reverse.all isTargetPart = true := by
      rw [List.all_reverse, List.all_eq_true]
      exact hgroups
    unfold isGccName
    rw [hsplit]
    obtain ⟨-, hparts⟩ | ⟨number, hnumber, hparts⟩ := hversion.splitOn hhyphen
    · rw [hparts, List.reverse_append]
      simp [hword, hall]
    · rw [hparts, List.reverse_append]
      simp [hword, hnumber, hall]

theorem compilerName_iff {cs : List Char} :
    CompilerName cs ↔ isClangName cs = true ∨ isGccName cs = true := by
  rw [isClangName_iff, isGccName_iff]
  constructor
  · rintro (⟨hword, hversion⟩ | ⟨htarget, hword, hversion⟩)
    · exact .inl ⟨_, _, hword, hversion, rfl⟩
    · exact .inr ⟨_, _, _, htarget, hword, hversion, rfl⟩
  · rintro (⟨word, version, hword, hversion, rfl⟩ |
      ⟨target, word, version, htarget, hword, hversion, rfl⟩)
    · exact .clang hword hversion
    · exact .gcc htarget hword hversion

theorem VersionMark.not_mem {version : List Char} (h : VersionMark version) : '\n' ∉ version := by
  cases h with
  | none => exact List.not_mem_nil
  | hyphen h => simpa using h.not_mem (by decide +kernel) (by decide)

theorem CompilerName.not_mem {name : List Char} (h : CompilerName name) : '\n' ∉ name := by
  cases h with
  | clang hword hversion =>
    have hplain := (not_mem_words _ (List.mem_append_left _ hword)).2
    simpa using ⟨hplain, hversion.not_mem⟩
  | gcc htarget hword hversion =>
    have hplain := (not_mem_words _ (List.mem_append_right _ hword)).2
    have htarget := htarget.not_mem (c := '\n') (by decide +kernel) (by decide) (by decide)
    simpa using ⟨htarget, hplain, hversion.not_mem⟩

/-! ## Toolchains -/

theorem upToLineFeed_iff {p : List Char → Bool} {cs : List Char} : upToLineFeed p cs = true ↔
    p cs = true ∨ ∃ front, p front = true ∧ cs = front ++ ['\n'] := by
  simp only [upToLineFeed, Bool.or_eq_true, Bool.and_eq_true, beq_iff_eq]
  refine or_congr_right ⟨?_, ?_⟩
  · rintro ⟨hlast, hfront⟩
    obtain ⟨front, rfl⟩ := List.getLast?_eq_some_iff.1 hlast
    rw [List.dropLast_concat] at hfront
    exact ⟨front, hfront, rfl⟩
  · rintro ⟨front, hfront, rfl⟩
    simpa using hfront

def FedCompilerName (name : List Char) : Prop :=
  ∃ front, CompilerName front ∧ name = front ++ ['\n']

theorem takenForCompiler_iff {cs : List Char} :
    (upToLineFeed isClangName cs || upToLineFeed isGccName cs) = true ↔
      CompilerName cs ∨ FedCompilerName cs := by
  rw [Bool.or_eq_true, upToLineFeed_iff, upToLineFeed_iff, compilerName_iff, FedCompilerName]
  simp only [compilerName_iff]
  constructor
  · rintro ((h | ⟨front, h, rfl⟩) | (h | ⟨front, h, rfl⟩))
    · exact .inl (.inl h)
    · exact .inr ⟨front, .inl h, rfl⟩
    · exact .inl (.inr h)
    · exact .inr ⟨front, .inr h, rfl⟩
  · rintro ((h | h) | ⟨front, h | h, rfl⟩)
    · exact .inl (.inl h)
    · exact .inr (.inl h)
    · exact .inl (.inr ⟨front, h, rfl⟩)
    · exact .inr (.inr ⟨front, h, rfl⟩)

theorem names_clang_iff {name : List Char} : Names name (.driver .clang) ↔ CompilerName name := by
  refine ⟨fun h => ?_, .compiler⟩
  cases h with
  | compiler h => exact h

theorem ofName_of_taken {name : String}
    (h : CompilerName name.toList ∨ FedCompilerName name.toList) :
    ofName name = some (.driver .clang) := by rw [ofName, if_pos (takenForCompiler_iff.2 h)]

theorem ofName_eq_some_iff {name : String} {kind : Toolchain} : ofName name = some kind ↔
    Names name.toList kind ∨ kind = .driver .clang ∧ FedCompilerName name.toList := by
  constructor
  · intro h
    unfold ofName at h
    split at h
    · next htaken =>
      cases h
      exact (takenForCompiler_iff.1 htaken).imp .compiler fun hfed => ⟨rfl, hfed⟩
    · split at h
      · next hname =>
        cases h
        rw [hname]
        exact .inl .nvcc
      · split at h
        · next hname =>
          cases h
          rw [hname]
          exact .inl .rustc
        · cases h
  · rintro (h | ⟨rfl, hfed⟩)
    · generalize hcs : name.toList = cs at h
      cases h with
      | compiler h => exact ofName_of_taken (.inl (hcs ▸ h))
      | nvcc =>
        rw [String.toList_inj.1 hcs]
        decide +kernel
      | rustc =>
        rw [String.toList_inj.1 hcs]
        decide +kernel
    · exact ofName_of_taken (.inr hfed)

/-- An executable belongs to the toolchain that has its name, and to no other and to none if there
is no such toolchain, unless its name is that of a compiler with a line feed behind it: that one is
taken for the compiler. -/
theorem classify_eq_some_iff (executable : String) :
    (∀ kind, classify executable = some kind ↔
      Names (baseName executable).toList kind ∨
        kind = .driver .clang ∧ FedCompilerName (baseName executable).toList) ∧
    (classify executable = none ↔ (∀ kind, ¬Names (baseName executable).toList kind) ∧
      ¬FedCompilerName (baseName executable).toList) ∧
    ((∀ kind, classify executable = some kind ↔ Names (baseName executable).toList kind) ↔
      ¬FedCompilerName (baseName executable).toList) := by
  have hsome : ∀ kind, classify executable = some kind ↔
      Names (baseName executable).toList kind ∨
        kind = .driver .clang ∧ FedCompilerName (baseName executable).toList :=
    fun kind => ofName_eq_some_iff
  refine ⟨hsome, ?_, ?_⟩
  · simp only [Option.eq_none_iff_forall_ne_some, ne_eq, hsome, not_or, not_and]
    constructor
    · intro h
      exact ⟨fun kind => (h kind).1, (h _).2 rfl⟩
    · rintro ⟨hnames, hfed⟩ kind
      exact ⟨hnames kind, fun _ => hfed⟩
  · constructor
    · intro h hfed
      have hname := names_clang_iff.1 ((h _).1 ((hsome _).2 (.inr ⟨rfl, hfed⟩)))
      -- a compiler's name has no line feed in it
      obtain ⟨front, -, heq⟩ := hfed
      exact hname.not_mem (heq ▸ List.mem_append_right front List.mem_cons_self)
    · intro hfed kind
      rw [hsome kind, or_iff_left fun h => hfed h.2]

/-- A line feed behind the name of clang is no part of any toolchain's name. -/
theorem classify_clang_lineFeed :
    classify "clang\n" = some (.driver .clang) ∧
    ¬∀ kind, classify "clang\n" = some kind ↔ Names (baseName "clang\n").toList kind := by
  have hclassify : classify "clang\n" = some (.driver .clang) := by decide +kernel
  refine ⟨hclassify, fun h => ?_⟩
  have hfeed : '\n' ∈ (baseName "clang\n").toList := by decide +kernel
  exact (names_clang_iff.1 ((h _).1 hclassify)).not_mem hfeed

end CompilerCommands.Toolchain
