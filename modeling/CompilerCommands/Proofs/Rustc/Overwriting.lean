import CompilerCommands.Proofs.Rustc.Classes
import CompilerCommands.Rustc.Change

/-!
# Settings that are overwritten

A setter switches an artifact on or off, sets the filter, or sets the codegen option of a key. Once
the same is set again, what was set before leaves no trace. A codegen option keeps the position at
which it was first set, so two setters for different keys can change places if one of the keys is
there already.
-/

namespace CompilerCommands.Rustc

/-! ## Codegen options -/

section Options

variable {options : List Setting} {key other : String}

theorem setOption_setOption_self (key : String) (value again : Option String)
    (options : List Setting) :
    setOption key again (setOption key value options) = setOption key again options := by
  induction options with
  | nil => simp [setOption]
  | cons option rest ih =>
    by_cases h : option.key = key
    · simp [setOption, h, List.filter_filter]
    · simp [setOption, h, ih]

theorem mem_keys_setOption_self (key : String) (value : Option String) (options : List Setting) :
    key ∈ (setOption key value options).map Setting.key := by
  induction options with
  | nil => simp [setOption]
  | cons option rest ih =>
    rw [setOption]
    split
    · exact List.mem_cons_self
    · exact List.mem_cons_of_mem _ ih

theorem mem_keys_setOption (h : key ∈ options.map Setting.key) (other : String)
    (value : Option String) : key ∈ (setOption other value options).map Setting.key := by
  by_cases hne : other = key
  · exact hne ▸ mem_keys_setOption_self other value options
  induction options with
  | nil => cases h
  | cons option rest ih =>
    rw [setOption]
    split
    · next hk =>
      rcases List.mem_cons.1 h with rfl | h
      · exact absurd hk.symm hne
      · obtain ⟨a, ha, rfl⟩ := List.mem_map.1 h
        exact List.mem_cons_of_mem _ (List.mem_map_of_mem (by simp [ha, Ne.symm hne]))
    · rcases List.mem_cons.1 h with rfl | h
      · exact List.mem_cons_self
      · exact List.mem_cons_of_mem _ (ih h)

theorem filter_setOption (hne : key ≠ other) (value : Option String) (options : List Setting) :
    (setOption key value options).filter (·.key ≠ other) =
      setOption key value (options.filter (·.key ≠ other)) := by
  induction options with
  | nil => simp [setOption, hne]
  | cons option rest ih =>
    rw [setOption]
    split
    · next hk =>
      have hkept : option.key ≠ other := hk ▸ hne
      rw [List.filter_cons_of_pos (by simpa using hne),
        List.filter_cons_of_pos (by simpa using hkept), setOption, if_pos hk, List.filter_comm]
    · next hk =>
      by_cases hkeep : option.key = other
      · simpa [hkeep] using ih
      · simpa [setOption, hk, hkeep] using ih

/-- Setters for different keys can change places where one of the keys is there. -/
theorem setOption_comm (hne : key ≠ other) (h : key ∈ options.map Setting.key)
    (value otherValue : Option String) :
    setOption other otherValue (setOption key value options) =
      setOption key value (setOption other otherValue options) := by
  induction options with
  | nil => cases h
  | cons option rest ih =>
    by_cases hk : option.key = key
    · have ho : option.key ≠ other := hk ▸ hne
      have hfilter := filter_setOption hne.symm otherValue rest
      simp_all [setOption]
    · by_cases ho : option.key = other
      · have hfilter := filter_setOption hne value rest
        simp_all [setOption]
      · have hrest : key ∈ rest.map Setting.key := by
          rcases List.mem_cons.1 h with h | h
          · exact absurd h.symm hk
          · exact h
        simp [setOption, hk, ho, ih hrest]

end Options

/-! ## Setters -/

theorem Flags.setEmits_comm {a b : Artifact} (h : a ≠ b) (flags : Flags) (on other : Bool) :
    (flags.setEmits a on).setEmits b other = (flags.setEmits b other).setEmits a on := by
  cases a <;> cases b <;> simp_all [setEmits]

namespace Change

def isSetter : Change → Bool
  | emit _ _ => true
  | filter _ => true
  | setCodegen _ _ => true
  | optimize _ => false
  | recordEmit _ => false
  | addCodegen _ => false

def isFilter : Change → Bool
  | filter _ => true
  | _ => false

variable {flags : Flags} {change early late : Change} {calls : List Change} {key : String}

theorem isSetter_cases (h : change.isSetter = true) :
    (∃ artifact on, change = emit artifact on) ∨ (∃ pattern, change = filter pattern) ∨
      ∃ key value, change = setCodegen key value := by
  cases change with
  | emit artifact on => exact .inl ⟨artifact, on, rfl⟩
  | filter pattern => exact .inr (.inl ⟨pattern, rfl⟩)
  | setCodegen key value => exact .inr (.inr ⟨key, value, rfl⟩)
  | _ => cases h

/-! ## A codegen option that is set again -/

theorem apply_setCodegen_comm (hsetter : change.isSetter = true)
    (hother : ∀ value, change ≠ setCodegen key value)
    (hkey : key ∈ flags.codegen.map Setting.key) (value : Option String) :
    change.apply (flags.setCodegen key value) = (change.apply flags).setCodegen key value := by
  obtain ⟨artifact, on, rfl⟩ | ⟨pattern, rfl⟩ | ⟨other, otherValue, rfl⟩ := isSetter_cases hsetter
  · cases artifact <;> rfl
  · rfl
  · have hne : key ≠ other := by
      rintro rfl
      exact hother otherValue rfl
    simp only [apply, Flags.setCodegen, setOption_comm hne hkey]

theorem mem_keys_apply (hsetter : change.isSetter = true)
    (hkey : key ∈ flags.codegen.map Setting.key) :
    key ∈ (change.apply flags).codegen.map Setting.key := by
  obtain ⟨artifact, on, rfl⟩ | ⟨pattern, rfl⟩ | ⟨other, value, rfl⟩ := isSetter_cases hsetter
  · cases artifact <;> exact hkey
  · exact hkey
  · exact mem_keys_setOption hkey other value

theorem applyAll_setCodegen_comm (hsetters : ∀ call ∈ calls, call.isSetter = true)
    (hothers : ∀ value, setCodegen key value ∉ calls)
    (hkey : key ∈ flags.codegen.map Setting.key) (value : Option String) :
    applyAll (flags.setCodegen key value) calls = (applyAll flags calls).setCodegen key value := by
  unfold applyAll
  induction calls generalizing flags with
  | nil => rfl
  | cons first rest ih =>
    have hfirst : first.isSetter = true := hsetters first List.mem_cons_self
    have hother (value : Option String) : first ≠ setCodegen key value := fun h =>
      hothers value (h ▸ List.mem_cons_self)
    rw [List.foldl_cons, apply_setCodegen_comm hfirst hother hkey,
      ih (fun call h => hsetters call (List.mem_cons_of_mem _ h))
        (fun value h => hothers value (List.mem_cons_of_mem _ h)) (mem_keys_apply hfirst hkey)]
    rfl

theorem applyAll_setCodegen_again (hsetters : ∀ call ∈ calls, call.isSetter = true)
    (hothers : ∀ value, setCodegen key value ∉ calls) (value again : Option String) :
    (applyAll (flags.setCodegen key value) calls).setCodegen key again =
      applyAll (flags.setCodegen key again) calls := by
  have hkey : key ∈ (flags.setCodegen key value).codegen.map Setting.key :=
    mem_keys_setOption_self key value flags.codegen
  rw [← applyAll_setCodegen_comm hsetters hothers hkey]
  simp only [Flags.setCodegen, setOption_setOption_self]

/-! ## A switch or a filter that is set again -/

/-- The second sets what the first has set, and what is set has no position. -/
inductive Overwrites : Change → Change → Prop
  | emit (artifact : Artifact) (on again : Bool) :
    Overwrites (emit artifact on) (emit artifact again)
  | filter (pattern again : Option String) : Overwrites (filter pattern) (filter again)

theorem Overwrites.apply_apply (h : Overwrites early late) (flags : Flags) :
    late.apply (early.apply flags) = late.apply flags := by
  cases h with
  | emit artifact on again => cases artifact <;> rfl
  | filter pattern again => rfl

/-- A setter is overwritten too, or can change places with the one that overwrites. -/
theorem Overwrites.overwrites_or_comm (h : Overwrites early late)
    (hsetter : change.isSetter = true) :
    Overwrites change late ∨
      ∀ flags, late.apply (change.apply flags) = change.apply (late.apply flags) := by
  cases h with
  | emit artifact on again =>
    obtain ⟨other, otherOn, rfl⟩ | ⟨pattern, rfl⟩ | ⟨key, value, rfl⟩ := isSetter_cases hsetter
    · by_cases hsame : other = artifact
      · exact hsame ▸ .inl (.emit other otherOn again)
      · exact .inr fun flags => Flags.setEmits_comm hsame flags otherOn again
    · exact .inr fun flags => by cases artifact <;> rfl
    · exact .inr fun flags => by cases artifact <;> rfl
  | filter pattern again =>
    obtain ⟨artifact, on, rfl⟩ | ⟨other, rfl⟩ | ⟨key, value, rfl⟩ := isSetter_cases hsetter
    · exact .inr fun flags => by cases artifact <;> rfl
    · exact .inl (.filter other again)
    · exact .inr fun flags => rfl

/-- States that differ only in what is overwritten differ in nothing else after setters. -/
theorem Overwrites.apply_applyAll (h : Overwrites early late)
    (hsetters : ∀ call ∈ calls, call.isSetter = true) {flags other : Flags}
    (hsame : late.apply flags = late.apply other) :
    late.apply (applyAll flags calls) = late.apply (applyAll other calls) := by
  unfold applyAll
  induction calls generalizing flags other with
  | nil => exact hsame
  | cons first rest ih =>
    refine ih (fun call hc => hsetters call (List.mem_cons_of_mem _ hc)) ?_
    obtain hfirst | hcomm := h.overwrites_or_comm (hsetters first List.mem_cons_self)
    · rw [hfirst.apply_apply, hfirst.apply_apply, hsame]
    · rw [hcomm, hcomm, hsame]

/-! ## A filter that is removed -/

theorem filter_none_applyAll (hsetters : ∀ call ∈ calls, call.isSetter = true) :
    (filter none).apply (applyAll flags calls) =
      applyAll ((filter none).apply flags) (calls.filter (!·.isFilter)) := by
  unfold applyAll
  induction calls generalizing flags with
  | nil => rfl
  | cons first rest ih =>
    rw [List.foldl_cons, ih fun call hc => hsetters call (List.mem_cons_of_mem _ hc),
      List.filter_cons]
    obtain ⟨artifact, on, rfl⟩ | ⟨pattern, rfl⟩ | ⟨key, value, rfl⟩ :=
      isSetter_cases (hsetters first List.mem_cons_self)
    · cases artifact <;> rfl
    · rfl
    · rfl

end Change

/-! ## Main result -/

open Change (Overwrites)

/-- Let `calls` be setters. A codegen option that is set before them and again behind them might
have been set to the last value at once, if they do not set it. A switch or a filter that is set
before them and again behind them need not have been set before. If the filter is removed behind
them, none of them need have set it. And two neighbours that set different codegen options, the
first of which is there already, can change places. Each time the state is the same, and so are its
arguments. -/
theorem applyAll_overwritten (args : List String) (before calls after : List Change)
    (hsetters : ∀ call ∈ calls, call.isSetter = true) :
    let state := Change.applyAll (Flags.ofArgs args)
    (∀ key value again, (∀ other, .setCodegen key other ∉ calls) →
      state (before ++ .setCodegen key value :: calls ++ .setCodegen key again :: after) =
        state (before ++ .setCodegen key again :: calls ++ after)) ∧
    (∀ early late, Overwrites early late →
      state (before ++ early :: calls ++ late :: after) =
        state (before ++ calls ++ late :: after)) ∧
    state (calls ++ [.filter none]) = state (calls.filter (!·.isFilter)) ∧
    ∀ key other value otherValue, key ≠ other →
      key ∈ (state before).codegen.map Setting.key →
      state (before ++ .setCodegen key value :: .setCodegen other otherValue :: after) =
        state (before ++ .setCodegen other otherValue :: .setCodegen key value :: after) := by
  intro state
  have happend (first rest : List Change) :
      state (first ++ rest) = Change.applyAll (state first) rest :=
    Change.applyAll_append _ first rest
  have hcons (flags : Flags) (first : Change) (rest : List Change) :
      Change.applyAll flags (first :: rest) = Change.applyAll (first.apply flags) rest := rfl
  refine ⟨?_, ?_, ?_, ?_⟩
  · intro key value again hothers
    simp only [happend, hcons, Change.apply]
    rw [Change.applyAll_setCodegen_again hsetters hothers]
  · intro early late h
    simp only [happend, hcons]
    rw [h.apply_applyAll hsetters (h.apply_apply _)]
  · have hfilter : (Change.filter none).apply (Flags.ofArgs args) = Flags.ofArgs args := by
      have hnone : (Flags.ofArgs args).filter = none := Flags.filter_ofUnits _
      generalize Flags.ofArgs args = flags at hnone
      cases flags
      simp_all [Change.apply]
    rw [happend, hcons, Change.filter_none_applyAll hsetters, hfilter]
    rfl
  · intro key other value otherValue hne hkey
    simp only [happend, hcons, Change.apply, Flags.setCodegen, setOption_comm hne hkey]

/-- The option for LLVM, in which the filter goes, is set again after a filter that is set again. -/
theorem applyAll_overwritten_llvmArgs :
    let args := ["main.rs", "-C", "llvm-args=-p", "-Copt-level=1"]
    let before : List Change := [.setCodegen "lto" none]
    let calls : List Change :=
      [.filter (some "old"), .setCodegen "opt-level" none, .emit .llvmIr false]
    let after : List Change := [.filter (some "add")]
    let state := Change.applyAll (Flags.ofArgs args)
    (∀ call ∈ calls, call.isSetter = true) ∧
      state (before ++ .setCodegen "llvm-args" (some "-q") :: calls ++
          .setCodegen "llvm-args" (some "-r") :: after) =
        state (before ++ .setCodegen "llvm-args" (some "-r") :: calls ++ after) ∧
      (state (before ++ .emit .asm false :: calls ++ .emit .asm true :: after)).synthesize =
        ["main.rs", "--emit", "asm", "-C", "llvm-args=-p -filter-print-funcs=add", "-C",
          "opt-level", "-C", "lto"] ∧
      (state (calls ++ [.filter none])).synthesize =
        ["main.rs", "--emit", "asm", "-C", "llvm-args=-p", "-C", "opt-level"] ∧
      state (before ++ .setCodegen "lto" (some "fat") :: .setCodegen "opt-level" none :: after) =
        state
          (before ++ .setCodegen "opt-level" none :: .setCodegen "lto" (some "fat") :: after) := by
  intro args before calls after state
  have hsetters : ∀ call ∈ calls, call.isSetter = true := by decide
  obtain ⟨hagain, hswitch, hfilter, hswap⟩ :=
    applyAll_overwritten args before calls after hsetters
  have hothers (other : Option String) : .setCodegen "llvm-args" other ∉ calls := by
    simp [calls]
  refine ⟨hsetters, hagain _ _ _ hothers, ?_, ?_, ?_⟩
  · exact (congrArg Flags.synthesize (hswitch _ _ (.emit .asm false true))).trans
      (by decide +kernel)
  · exact (congrArg Flags.synthesize hfilter).trans (by decide +kernel)
  · exact hswap _ _ _ _ (by decide) (by decide +kernel)

end CompilerCommands.Rustc
