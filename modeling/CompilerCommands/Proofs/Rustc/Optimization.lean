import CompilerCommands.Proofs.Rustc.RoundTrip

/-!
# Which optimisation is asked for

rustc optimises as the last of `-O` and of the codegen options for the level says. The arguments of
a state name the level first and `-O` last, wherever they stood. So the last of them stays the last,
unless a level is given behind `-O`: that is overridden.
-/

namespace CompilerCommands.Rustc

inductive OptRequest where
  /-- `-O` -/
  | optimize
  | level (value : Option String)
  deriving DecidableEq, Repr

def optLevel : String := "opt-level"

def Setting.optRequest? (option : Setting) : Option OptRequest :=
  if option.key = optLevel then some (.level option.value) else none

def ArgUnit.optRequest? : ArgUnit → Option OptRequest
  | optimize => some .optimize
  | codegen option => (Setting.ofString option).optRequest?
  | _ => none

def optRequests (args : List String) : List OptRequest :=
  (ArgUnit.ofArgs args).filterMap ArgUnit.optRequest?

/-- The request that counts. -/
def optRequest? (args : List String) : Option OptRequest := (optRequests args).getLast?

/-! ## Requests of a state -/

theorem filterMap_optRequest?_addOption (options : List Setting) (option : Setting) :
    (addOption options option).filterMap Setting.optRequest? =
      options.filterMap Setting.optRequest? ++ option.optRequest?.toList := by
  have hllvm {a : Setting} (h : a.key = llvmArgs) : a.optRequest? = none := by
    rw [Setting.optRequest?, h, if_neg (by decide)]
  obtain ⟨hadd, -⟩ | ⟨front, old, rest, rfl, -, hold, hoption, hadd⟩ :=
    addOption_cases options option
  · rw [hadd, List.filterMap_append, List.filterMap_cons]
    cases option.optRequest? <;> rfl
  · rw [hadd, hllvm hoption, Option.toList_none, List.append_nil, List.filterMap_append,
      List.filterMap_append, List.filterMap_cons, List.filterMap_cons, hllvm hold, hllvm rfl]

theorem filterMap_optRequest?_ofUnits (units : List ArgUnit) :
    (Flags.ofUnits units).codegen.filterMap Setting.optRequest? =
      (units.filterMap ArgUnit.optRequest?).filter (· ≠ .optimize) := by
  suffices h : ∀ flags : Flags,
      (units.foldl ArgUnit.apply flags).codegen.filterMap Setting.optRequest? =
        flags.codegen.filterMap Setting.optRequest? ++
          (units.filterMap ArgUnit.optRequest?).filter (· ≠ .optimize) from h _
  induction units with
  | nil => simp
  | cons unit rest ih =>
    intro flags
    rw [List.foldl_cons, ih]
    cases unit with
    | emit kinds => rw [ArgUnit.apply, Flags.codegen_recordEmit]; rfl
    | codegen option =>
      simp only [ArgUnit.apply, Flags.addCodegen, filterMap_optRequest?_addOption,
        List.filterMap_cons, ArgUnit.optRequest?, Setting.optRequest?]
      split <;> simp
    | optimize => rfl
    | retained arg => rfl

theorem mem_filterMap_optRequest?_iff {units : List ArgUnit} :
    OptRequest.optimize ∈ units.filterMap ArgUnit.optRequest? ↔ ArgUnit.optimize ∈ units := by
  rw [List.mem_filterMap]
  constructor
  · rintro ⟨unit, hunit, hrequest⟩
    cases unit with
    | optimize => exact hunit
    | codegen option =>
      simp only [ArgUnit.optRequest?, Setting.optRequest?] at hrequest
      split at hrequest <;> cases hrequest
    | _ => cases hrequest
  · exact fun hunit => ⟨_, hunit, rfl⟩

/-! ## Requests of its arguments -/

theorem filterMap_optRequest?_retained (kept : List String) :
    (kept.map ArgUnit.retained).filterMap ArgUnit.optRequest? = [] := by
  simp [List.filterMap_map, Function.comp_def, ArgUnit.optRequest?]

theorem filterMap_optRequest?_codegen {options : List Setting}
    (h : ∀ option ∈ options, '=' ∉ option.key.toList) :
    (options.map fun option => ArgUnit.codegen option.text).filterMap ArgUnit.optRequest? =
      options.filterMap Setting.optRequest? := by
  rw [List.filterMap_map]
  refine List.filterMap_congr fun option ho => ?_
  rw [Function.comp_apply, ArgUnit.optRequest?, Setting.ofString_text (h option ho)]

/-- The arguments of the state that arguments lead to ask for the same levels in the same order, and
for `-O` behind them if it was asked for at all. -/
theorem optRequests_synthesize {args : List String}
    (hlast : ∀ arg ∈ (Flags.ofArgs args).retained.getLast?, arg ∉ pairFlags) :
    optRequests (Flags.ofArgs args).synthesize =
      (optRequests args).filter (· ≠ .optimize) ++
        if .optimize ∈ optRequests args then [.optimize] else [] := by
  have hkeys := (Flags.readable_ofUnits (ArgUnit.ofArgs args)).keys
  have hoptions : (Flags.ofArgs args).codegenOptions = (Flags.ofArgs args).codegen := by
    rw [Flags.codegenOptions, Flags.ofArgs, Flags.filter_ofUnits]
  have hemission : (ArgUnit.emission (Flags.ofArgs args)).filterMap ArgUnit.optRequest? = [] := by
    unfold ArgUnit.emission
    split <;> rfl
  have hoptimize : (if (Flags.ofArgs args).optimize then [ArgUnit.optimize] else []).filterMap
      ArgUnit.optRequest? = if .optimize ∈ optRequests args then [.optimize] else [] := by
    rw [Flags.ofArgs, Flags.optimize_ofUnits, optRequests]
    simp only [decide_eq_true_eq, mem_filterMap_optRequest?_iff]
    split <;> rfl
  rw [optRequests, ArgUnit.ofArgs_synthesize_eq (Flags.standsAlone_of_mem_retained hlast),
    List.filterMap_append, List.filterMap_append, List.filterMap_append,
    filterMap_optRequest?_retained, hemission, hoptions, Flags.ofArgs,
    filterMap_optRequest?_codegen hkeys, filterMap_optRequest?_ofUnits, ← Flags.ofArgs, hoptimize]
  rfl

/-! ## Main result -/

/-- Of arguments that do not end in a flag without its value, the state that they lead to asks for
`-O` last if they ask for it at all, else for what they ask for last. So the request that counts
stays exactly if no level is given behind `-O`. -/
theorem optRequest?_synthesize_iff {args : List String}
    (hlast : ∀ arg ∈ (Flags.ofArgs args).retained.getLast?, arg ∉ pairFlags) :
    let rewritten := (Flags.ofArgs args).synthesize
    optRequest? rewritten =
      (if .optimize ∈ optRequests args then some .optimize else optRequest? args) ∧
    (optRequest? rewritten = optRequest? args ↔
      (.optimize ∈ optRequests args → optRequest? args = some .optimize)) := by
  intro rewritten
  have hrequest : optRequest? rewritten =
      if .optimize ∈ optRequests args then some .optimize else optRequest? args := by
    rw [optRequest?, optRequests_synthesize hlast]
    split
    · exact List.getLast?_concat
    · next hnone =>
      have hall : ∀ request ∈ optRequests args, decide (request ≠ .optimize) = true := by
        rintro request hrequest
        exact decide_eq_true fun h => hnone (h ▸ hrequest)
      rw [List.append_nil, List.filter_eq_self.2 hall, optRequest?]
  refine ⟨hrequest, ?_⟩
  rw [hrequest]
  split
  · next h => simp only [h, true_implies, eq_comm]
  · next h => simp only [h, false_implies]

/-- A level before `-O` stays overridden. One behind it would be overridden, so it does not count
any more. -/
theorem optRequest?_synthesize_iff_both :
    (let args := ["-Copt-level=1", "main.rs", "--emit", "asm,link=x", "-O", "-Cllvm-args=-O"]
     (∀ arg ∈ (Flags.ofArgs args).retained.getLast?, arg ∉ pairFlags) ∧
      optRequest? args = some .optimize ∧
      optRequest? (Flags.ofArgs args).synthesize = optRequest? args) ∧
    let args := ["-O", "main.rs", "--codegen=opt-level=s"]
    (∀ arg ∈ (Flags.ofArgs args).retained.getLast?, arg ∉ pairFlags) ∧
      optRequest? args = some (.level (some "s")) ∧
      optRequest? (Flags.ofArgs args).synthesize ≠ optRequest? args := by
  constructor
  · intro args
    have hlast : ∀ arg ∈ (Flags.ofArgs args).retained.getLast?, arg ∉ pairFlags := by
      decide +kernel
    have hrequest : optRequest? args = some .optimize := by decide +kernel
    exact ⟨hlast, hrequest, (optRequest?_synthesize_iff hlast).2.2 fun _ => hrequest⟩
  · intro args
    have hlast : ∀ arg ∈ (Flags.ofArgs args).retained.getLast?, arg ∉ pairFlags := by
      decide +kernel
    have hrequest : optRequest? args = some (.level (some "s")) := by decide +kernel
    refine ⟨hlast, hrequest, fun hsame => ?_⟩
    have hoptimize := (optRequest?_synthesize_iff hlast).2.1 hsame (by decide +kernel)
    rw [hrequest] at hoptimize
    cases hoptimize

/-- rustc is asked not to optimise, and its rewritten arguments ask for `-O`. -/
theorem optRequest?_synthesize_overridden :
    let args := ["main.rs", "-O", "-C", "opt-level=0"]
    optRequest? args = some (.level (some "0")) ∧
      (Flags.ofArgs args).synthesize =
        ["main.rs", "--emit", "llvm-ir,asm", "-C", "opt-level=0", "-O"] ∧
      optRequest? (Flags.ofArgs args).synthesize = some .optimize := by
  decide +kernel

end CompilerCommands.Rustc
