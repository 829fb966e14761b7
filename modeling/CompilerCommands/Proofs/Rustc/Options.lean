import CompilerCommands.Rustc.Flags
import Mathlib.Data.List.Pairwise

/-!
# Lists of codegen options

All arguments for LLVM are in one option: every later option for LLVM has no value (`Merged`).
Adding and setting options keep it so, and a merged list is what adding its options one after
another gives.
-/

namespace CompilerCommands.Rustc

/-- Only the first option for LLVM has a value. -/
def Merged (options : List Setting) : Prop :=
  options.Pairwise fun a b => a.key = llvmArgs → b.key = llvmArgs → b.value.getD "" = ""

theorem merged_nil : Merged [] := List.Pairwise.nil

theorem merged_concat {options : List Setting} {option : Setting} :
    Merged (options ++ [option]) ↔ Merged options ∧
      ∀ a ∈ options, a.key = llvmArgs → option.key = llvmArgs → option.value.getD "" = "" := by
  simp [Merged, List.pairwise_append]

/-! ## Extending the arguments for LLVM -/

theorem extendLlvmArgs?_eq_none_iff {extra : String} {options : List Setting} :
    extendLlvmArgs? extra options = none ↔ ∀ a ∈ options, a.key ≠ llvmArgs := by
  induction options with
  | nil => simp [extendLlvmArgs?]
  | cons option rest ih =>
    rw [extendLlvmArgs?]
    split
    · next h => simp [h]
    · next h => simp [ih, h]

/-- Only the first option for LLVM is changed, and of that only the value. -/
theorem extendLlvmArgs?_eq_some {extra : String} {options extended : List Setting}
    (h : extendLlvmArgs? extra options = some extended) :
    ∃ front option rest, options = front ++ option :: rest ∧ (∀ a ∈ front, a.key ≠ llvmArgs) ∧
      option.key = llvmArgs ∧
      extended = front ++ ⟨llvmArgs, some (appendValue option.value extra)⟩ :: rest := by
  induction options generalizing extended with
  | nil => simp [extendLlvmArgs?] at h
  | cons option rest ih =>
    rw [extendLlvmArgs?] at h
    split at h
    · next hk =>
      cases h
      exact ⟨[], option, rest, rfl, by simp, hk, by simp [← hk]⟩
    · next hk =>
      obtain ⟨tail, ht, rfl⟩ := Option.map_eq_some_iff.1 h
      obtain ⟨front, found, back, rfl, hf, hfound, rfl⟩ := ih ht
      exact ⟨option :: front, found, back, rfl, by simpa [hk] using hf, hfound, rfl⟩

/-! ## Adding -/

theorem addOption_cases (options : List Setting) (option : Setting) :
    (addOption options option = options ++ [option] ∧
      ∀ a ∈ options, a.key = llvmArgs → option.key = llvmArgs → option.value.getD "" = "") ∨
    ∃ front old rest, options = front ++ old :: rest ∧ (∀ a ∈ front, a.key ≠ llvmArgs) ∧
      old.key = llvmArgs ∧ option.key = llvmArgs ∧ addOption options option =
        front ++ ⟨llvmArgs, some (appendValue old.value (option.value.getD ""))⟩ :: rest := by
  simp only [addOption]
  split
  · next h =>
    cases he : extendLlvmArgs? (option.value.getD "") options with
    | none =>
      have hn := extendLlvmArgs?_eq_none_iff.1 he
      exact .inl ⟨rfl, fun a ha hk => absurd hk (hn a ha)⟩
    | some extended =>
      obtain ⟨front, old, rest, ho, hf, hk, rfl⟩ := extendLlvmArgs?_eq_some he
      exact .inr ⟨front, old, rest, ho, hf, hk, h.1, rfl⟩
  · next h =>
    exact .inl ⟨rfl, fun a _ _ hk => Classical.not_not.1 fun hv => h ⟨hk, hv⟩⟩

theorem Merged.addOption {options : List Setting} (h : Merged options) (option : Setting) :
    Merged (addOption options option) := by
  obtain ⟨hadd, hnew⟩ | ⟨front, old, rest, rfl, hf, hk, -, hadd⟩ := addOption_cases options option
  · rw [hadd]
    exact merged_concat.2 ⟨h, hnew⟩
  · rw [hadd]
    simp only [Merged, List.pairwise_append, List.pairwise_cons] at h ⊢
    obtain ⟨hfront, ⟨hold, hrest⟩, -⟩ := h
    exact ⟨hfront, ⟨fun b hb _ => hold b hb hk, hrest⟩, fun a ha _ _ hak => absurd hak (hf a ha)⟩

theorem key_mem_addOption {options : List Setting} {option a : Setting}
    (ha : a ∈ addOption options option) : a.key = option.key ∨ ∃ b ∈ options, b.key = a.key := by
  obtain ⟨hadd, -⟩ | ⟨front, old, rest, rfl, -, hk, -, hadd⟩ := addOption_cases options option
  · rw [hadd, List.mem_append, List.mem_singleton] at ha
    rcases ha with ha | rfl
    · exact .inr ⟨a, ha, rfl⟩
    · exact .inl rfl
  · rw [hadd, List.mem_append, List.mem_cons] at ha
    rcases ha with ha | rfl | ha
    · exact .inr ⟨a, by simp [ha], rfl⟩
    · exact .inr ⟨old, by simp, hk⟩
    · exact .inr ⟨a, by simp [ha], rfl⟩

theorem addOption_of_merged {options : List Setting} {option : Setting}
    (h : Merged (options ++ [option])) : addOption options option = options ++ [option] := by
  simp only [addOption]
  split
  · next hv =>
    have hn : ∀ a ∈ options, a.key ≠ llvmArgs := fun a ha hk =>
      hv.2 ((merged_concat.1 h).2 a ha hk hv.1)
    rw [extendLlvmArgs?_eq_none_iff.2 hn]
    rfl
  · rfl

/-- The options of a merged list give the list again when they are added one after another. -/
theorem foldl_addOption_of_merged {front options : List Setting} (h : Merged (front ++ options)) :
    options.foldl addOption front = front ++ options := by
  induction options generalizing front with
  | nil => simp
  | cons option rest ih =>
    have hsplit : front ++ option :: rest = front ++ [option] ++ rest := by simp
    rw [hsplit] at h
    rw [List.foldl_cons, addOption_of_merged (List.pairwise_append.1 h).1, ih h, hsplit]

/-! ## Setting -/

theorem mem_setOption {key : String} {value : Option String} {options : List Setting} {a : Setting}
    (ha : a ∈ setOption key value options) : a = ⟨key, value⟩ ∨ a ∈ options := by
  induction options with
  | nil => exact .inl (by simpa [setOption] using ha)
  | cons option rest ih =>
    rw [setOption] at ha
    split at ha
    · rcases List.mem_cons.1 ha with rfl | ha
      · exact .inl rfl
      · exact .inr (List.mem_cons_of_mem _ ((List.mem_filter.1 ha).1))
    · rcases List.mem_cons.1 ha with rfl | ha
      · exact .inr List.mem_cons_self
      · exact (ih ha).imp id (List.mem_cons_of_mem _)

theorem Merged.setOption {options : List Setting} (h : Merged options) (key : String)
    (value : Option String) : Merged (setOption key value options) := by
  induction options with
  | nil => exact List.pairwise_singleton _ _
  | cons option rest ih =>
    obtain ⟨hoption, hrest⟩ := List.pairwise_cons.1 h
    rw [Rustc.setOption]
    split
    · refine List.pairwise_cons.2 ⟨?_, hrest.filter _⟩
      intro b hb hk hbk
      have hne : b.key ≠ key := by simpa using (List.mem_filter.1 hb).2
      exact absurd (hbk.trans hk.symm) hne
    · next hne =>
      refine List.pairwise_cons.2 ⟨?_, ih hrest⟩
      intro b hb hk hbk
      rcases mem_setOption hb with rfl | hb
      · exact absurd (hk.trans hbk.symm) hne
      · exact hoption b hb hk hbk

end CompilerCommands.Rustc
