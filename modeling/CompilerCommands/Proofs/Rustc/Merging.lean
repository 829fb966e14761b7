import CompilerCommands.Proofs.Rustc.RoundTrip

/-!
# Arguments for LLVM

Codegen options are added one after another, and each value for LLVM joins the option for LLVM that
is there. What this comes to can be said of all the options at once (`mergeLlvmArgs`): the first
option for LLVM takes the values of all, and the others go, unless they have no value.
-/

namespace CompilerCommands.Rustc

/-! ## All options at once -/

def Setting.passesArgs (option : Setting) : Bool :=
  option.key = llvmArgs ∧ option.value.getD "" ≠ ""

/-- The arguments for LLVM, option by option. -/
def llvmValues (options : List Setting) : List String :=
  (options.filter (·.passesArgs)).map (·.value.getD "")

/-- All values between spaces; `own` if there are none. -/
def joinValues (own : Option String) (values : List String) : Option String :=
  if values = [] then own else some (" ".intercalate values)

/-- The first option for LLVM with the values of all, and of the others only those without one. -/
def mergeLlvmArgs : List Setting → List Setting
  | [] => []
  | option :: rest =>
    if option.key = llvmArgs then
      ⟨llvmArgs, joinValues option.value (llvmValues (option :: rest))⟩ ::
        rest.filter (!·.passesArgs)
    else option :: mergeLlvmArgs rest

variable {option first : Setting}

theorem passesArgs_iff :
    option.passesArgs = true ↔ option.key = llvmArgs ∧ option.value.getD "" ≠ "" := by
  simp [Setting.passesArgs]

theorem mergeLlvmArgs_cons_of_eq (h : first.key = llvmArgs) (rest : List Setting) :
    mergeLlvmArgs (first :: rest) =
      ⟨llvmArgs, joinValues first.value (llvmValues (first :: rest))⟩ ::
        rest.filter (!·.passesArgs) := if_pos h

theorem mergeLlvmArgs_cons_of_ne (h : first.key ≠ llvmArgs) (rest : List Setting) :
    mergeLlvmArgs (first :: rest) = first :: mergeLlvmArgs rest := if_neg h

theorem filter_mergeLlvmArgs (options : List Setting) :
    (mergeLlvmArgs options).filter (·.key ≠ llvmArgs) = options.filter (·.key ≠ llvmArgs) := by
  induction options with
  | nil => rfl
  | cons first rest ih =>
    by_cases hfirst : first.key = llvmArgs
    · have hkept : ∀ option ∈ rest,
          (decide (option.key ≠ llvmArgs) && !option.passesArgs) =
            decide (option.key ≠ llvmArgs) := by
        intro option _
        by_cases hoption : option.key = llvmArgs <;> simp [Setting.passesArgs, hoption]
      rw [mergeLlvmArgs_cons_of_eq hfirst, List.filter_cons_of_neg (by simp),
        List.filter_cons_of_neg (by simpa using hfirst), List.filter_filter,
        List.filter_congr hkept]
    · rw [mergeLlvmArgs_cons_of_ne hfirst, List.filter_cons_of_pos (by simpa using hfirst),
        List.filter_cons_of_pos (by simpa using hfirst), ih]

/-! ## One more option -/

theorem addOption_cons_of_ne (h : first.key ≠ llvmArgs) (rest : List Setting) (option : Setting) :
    addOption (first :: rest) option = first :: addOption rest option := by
  simp only [addOption, extendLlvmArgs?, if_neg h]
  split
  · cases extendLlvmArgs? (option.value.getD "") rest <;> rfl
  · rfl

theorem addOption_cons_of_passesArgs (h : option.passesArgs = true) (value : Option String)
    (rest : List Setting) :
    addOption (⟨llvmArgs, value⟩ :: rest) option =
      ⟨llvmArgs, some (appendValue value (option.value.getD ""))⟩ :: rest := by
  rw [addOption, if_pos (passesArgs_iff.1 h)]
  rfl

theorem addOption_of_not_passesArgs (h : ¬option.passesArgs = true) (options : List Setting) :
    addOption options option = options ++ [option] := by
  rw [addOption, if_neg fun hpasses => h (passesArgs_iff.2 hpasses)]

theorem llvmValues_concat (options : List Setting) (option : Setting) :
    llvmValues (options ++ [option]) =
      llvmValues options ++ if option.passesArgs then [option.value.getD ""] else [] := by
  by_cases h : option.passesArgs = true <;> simp [llvmValues, List.filter_append, h]

theorem ne_empty_of_mem_llvmValues {options : List Setting} :
    ∀ value ∈ llvmValues options, value ≠ "" := by
  intro value hvalue
  obtain ⟨option, hoption, rfl⟩ := List.mem_map.1 hvalue
  exact (passesArgs_iff.1 (List.mem_filter.1 hoption).2).2

theorem value_eq_empty_of_llvmValues_eq_nil {rest : List Setting} (h : first.key = llvmArgs)
    (hnil : llvmValues (first :: rest) = []) : first.value.getD "" = "" := by
  have hall := List.filter_eq_nil_iff.1 (List.map_eq_nil_iff.1 hnil)
  by_contra hvalue
  exact hall first List.mem_cons_self (passesArgs_iff.2 ⟨h, hvalue⟩)

theorem intercalate_ne_empty {values : List String} (hne : values ≠ [])
    (h : ∀ value ∈ values, value ≠ "") : " ".intercalate values ≠ "" := by
  cases values with
  | nil => exact absurd rfl hne
  | cons value rest =>
    have hvalue : value ≠ "" := h value List.mem_cons_self
    cases rest with
    | nil => rwa [String.intercalate_singleton]
    | cons next others => simp [hvalue]

theorem appendValue_joinValues {own : Option String} {values : List String} {value : String}
    (hown : values = [] → own.getD "" = "") (h : ∀ value ∈ values, value ≠ "") :
    appendValue (joinValues own values) value = " ".intercalate (values ++ [value]) := by
  unfold joinValues
  split
  · next hnil =>
    rw [hnil, List.nil_append, String.intercalate_singleton]
    have hempty := hown hnil
    cases own with
    | none => rfl
    | some text => simp_all [appendValue]
  · next hne =>
    have hjoined := intercalate_ne_empty hne h
    rw [String.intercalate_append_of_ne_nil hne (List.cons_ne_nil _ _),
      String.intercalate_singleton]
    simp [appendValue, hjoined]

theorem joinValues_single (option : Setting) (h : option.key = llvmArgs) :
    joinValues option.value (llvmValues [option]) = option.value := by
  obtain ⟨key, value⟩ := option
  cases value with
  | none => simp [joinValues, llvmValues, Setting.passesArgs]
  | some text => by_cases ht : text = "" <;> simp_all [joinValues, llvmValues, Setting.passesArgs]

/-- Adding an option to the merged ones is merging it with the others. -/
theorem mergeLlvmArgs_concat (options : List Setting) (option : Setting) :
    mergeLlvmArgs (options ++ [option]) = addOption (mergeLlvmArgs options) option := by
  induction options with
  | nil =>
    have hadd : addOption [] option = [option] := by simp [addOption, extendLlvmArgs?]
    rw [mergeLlvmArgs, hadd, List.nil_append]
    by_cases hkey : option.key = llvmArgs
    · rw [mergeLlvmArgs_cons_of_eq hkey, joinValues_single option hkey, ← hkey]
      rfl
    · rw [mergeLlvmArgs_cons_of_ne hkey]
      rfl
  | cons first rest ih =>
    by_cases hfirst : first.key = llvmArgs
    · rw [List.cons_append, mergeLlvmArgs_cons_of_eq hfirst, mergeLlvmArgs_cons_of_eq hfirst,
        ← List.cons_append, llvmValues_concat, List.filter_append]
      by_cases hpasses : option.passesArgs = true
      · rw [addOption_cons_of_passesArgs hpasses,
          appendValue_joinValues (value_eq_empty_of_llvmValues_eq_nil hfirst)
            ne_empty_of_mem_llvmValues]
        simp [hpasses, joinValues]
      · rw [addOption_of_not_passesArgs hpasses]
        simp [hpasses]
    · rw [List.cons_append, mergeLlvmArgs_cons_of_ne hfirst, mergeLlvmArgs_cons_of_ne hfirst, ih,
        addOption_cons_of_ne hfirst]

theorem foldl_addOption_eq (options : List Setting) :
    options.foldl addOption [] = mergeLlvmArgs options := by
  induction options using List.reverseRecOn with
  | nil => rfl
  | append_singleton front option ih =>
    rw [List.foldl_append, List.foldl_cons, List.foldl_nil, ih, mergeLlvmArgs_concat]

/-! ## Main result -/

def readOptions (args : List String) : List Setting :=
  ((ArgUnit.ofArgs args).filterMap ArgUnit.codegen?).map Setting.ofString

/-- The codegen options that arguments lead to are those among them with the values for LLVM merged.
All others stay as they are and in order, and after the first option for LLVM there is none with a
value. -/
theorem codegen_ofArgs_eq (args : List String) :
    let codegen := (Flags.ofArgs args).codegen
    codegen = mergeLlvmArgs (readOptions args) ∧
      codegen.filter (·.key ≠ llvmArgs) = (readOptions args).filter (·.key ≠ llvmArgs) ∧
      Merged codegen := by
  intro codegen
  have hcodegen : codegen = mergeLlvmArgs (readOptions args) := by
    rw [← foldl_addOption_eq, readOptions, List.foldl_map]
    exact Flags.codegen_ofUnits _
  exact ⟨hcodegen, hcodegen ▸ filter_mergeLlvmArgs _, (Flags.readable_ofUnits _).merged⟩

/-- The first option for LLVM has no value of its own, and takes those of two others. -/
example :
    (Flags.ofArgs ["-Clto", "-C", "llvm-args", "--codegen=llvm-args=-p", "-Clto", "-C",
        "llvm-args=", "-Cllvm-args=-q"]).codegen =
      [⟨"lto", none⟩, ⟨"llvm-args", some "-p -q"⟩, ⟨"lto", none⟩, ⟨"llvm-args", some ""⟩] := by
  decide +kernel

end CompilerCommands.Rustc
