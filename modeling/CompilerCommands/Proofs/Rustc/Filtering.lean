import CompilerCommands.Proofs.Rustc.Merging

/-!
# What a filter changes

The filter is one directive for LLVM. With it the arguments of a state are as without it but for one
place: the directive joins the first codegen option for LLVM, or is an option of its own behind all
others. As nothing that is kept can be taken for an option, that place is the first one in the
arguments as well.
-/

namespace CompilerCommands.Rustc

/-! ## Values behind `-C` -/

/-- The arguments that stand directly behind `-C`. -/
def codegenValues : List String → List String
  | flag :: value :: rest =>
    if flag = "-C" then value :: codegenValues (value :: rest) else codegenValues (value :: rest)
  | _ => []

/-- No argument behind `-C` is read as an option for LLVM. -/
def PassesNoArgs (args : List String) : Prop :=
  ∀ value ∈ codegenValues args, (Setting.ofString value).key ≠ llvmArgs

variable {args : List String} {arg : String}

theorem codegenValues_concat (args : List String) (arg : String) :
    codegenValues (args ++ [arg]) =
      codegenValues args ++ if args.getLast? = some "-C" then [arg] else [] := by
  fun_induction codegenValues args with
  | case1 value rest ih => simpa [codegenValues] using ih
  | case2 flag value rest hflag ih => simpa [codegenValues, hflag] using ih
  | case3 args hshort =>
    match args with
    | [] => simp [codegenValues]
    | [flag] => simp [codegenValues]
    | flag :: value :: rest => exact absurd rfl (hshort flag value rest)

theorem passesNoArgs_concat_iff :
    PassesNoArgs (args ++ [arg]) ↔ PassesNoArgs args ∧
      (args.getLast? = some "-C" → (Setting.ofString arg).key ≠ llvmArgs) := by
  unfold PassesNoArgs
  rw [codegenValues_concat]
  split <;> simp_all [or_imp, forall_and]

theorem PassesNoArgs.concat (h : PassesNoArgs args) (harg : (Setting.ofString arg).key ≠ llvmArgs) :
    PassesNoArgs (args ++ [arg]) :=
  passesNoArgs_concat_iff.2 ⟨h, fun _ => harg⟩

theorem codegenValues_cons_of_ne (h : arg ≠ "-C") (rest : List String) :
    codegenValues (arg :: rest) = codegenValues rest := by
  cases rest with
  | nil => rfl
  | cons value rest => rw [codegenValues, if_neg h]

/-- What stands behind `-C` is not kept: the flag is kept only where it is the last argument. -/
theorem codegenValues_retained (args : List String) :
    codegenValues (Flags.ofArgs args).retained = [] := by
  rw [Flags.ofArgs, Flags.retained_ofUnits]
  -- A pair keeps nothing, and a single argument that is kept is no flag with a value, so what is
  -- kept has `-C` at its end only.
  fun_induction ArgUnit.ofArgs args with
  | case1 => rfl
  | case2 only => cases h : (ArgUnit.ofSingle only).retained? <;> simp [h, codegenValues]
  | case3 flag value rest unit hu ih => rwa [List.filterMap_cons, ArgUnit.ofPair?_retained? hu]
  | case4 first value rest hn ih =>
    cases h : (ArgUnit.ofSingle first).retained? with
    | none => rwa [List.filterMap_cons, h]
    | some kept =>
      obtain ⟨rfl, -⟩ := ArgUnit.ofSingle_of_retained? h
      have hne : kept ≠ "-C" := by
        rintro rfl
        exact ArgUnit.not_mem_pairFlags hn (by decide)
      rw [List.filterMap_cons, h, codegenValues_cons_of_ne hne, ih]

/-! ## The arguments of a state -/

def optionArgs (options : List Setting) : List String :=
  options.flatMap fun option => ["-C", option.text]

namespace Flags

/-- The arguments of a state before its codegen options and of the first `options` of these. -/
def argsThrough (flags : Flags) (options : List Setting) : List String :=
  flags.retained ++ flags.emitArgs ++ optionArgs options

def lastArgs (flags : Flags) : List String := if flags.optimize then ["-O"] else []

theorem synthesize_unfiltered (flags : Flags) :
    { flags with filter := none }.synthesize =
      flags.argsThrough flags.codegen ++ flags.lastArgs := rfl

theorem synthesize_filtered (flags : Flags) (pattern : String) :
    { flags with filter := some pattern }.synthesize =
      flags.argsThrough (addOption flags.codegen ⟨llvmArgs, some (filterDirective pattern)⟩) ++
        flags.lastArgs := rfl

variable {flags : Flags}

theorem passesNoArgs_emitArgs (h : PassesNoArgs flags.retained) :
    PassesNoArgs (flags.retained ++ flags.emitArgs) := by
  rw [emitArgs]
  split
  · rwa [List.append_nil]
  · rw [List.append_cons]
    have hemit : PassesNoArgs (flags.retained ++ ["--emit"]) := h.concat (by decide)
    exact passesNoArgs_concat_iff.2 ⟨hemit, fun hlast => absurd hlast (by simp)⟩

theorem passesNoArgs_argsThrough (h : PassesNoArgs flags.retained) {options : List Setting}
    (hkeys : ∀ option ∈ options, '=' ∉ option.key.toList)
    (hother : ∀ option ∈ options, option.key ≠ llvmArgs) :
    PassesNoArgs (flags.argsThrough options) := by
  induction options using List.reverseRecOn with
  | nil => simpa [argsThrough, optionArgs] using passesNoArgs_emitArgs h
  | append_singleton front option ih =>
    have hfront := ih (fun other ho => hkeys other (by simp [ho]))
      fun other ho => hother other (by simp [ho])
    have hkey : (Setting.ofString option.text).key ≠ llvmArgs := by
      rw [Setting.ofString_text (hkeys option (by simp))]
      exact hother option (by simp)
    have hsplit : flags.argsThrough (front ++ [option]) =
        flags.argsThrough front ++ ["-C"] ++ [option.text] := by
      simp [argsThrough, optionArgs]
    rw [hsplit]
    exact (hfront.concat (by decide)).concat hkey

end Flags

/-! ## The option that takes the directive -/

variable {before after : List Setting} {option : Setting}

theorem addOption_append_of_ne (h : ∀ other ∈ before, other.key ≠ llvmArgs)
    (rest : List Setting) (option : Setting) :
    addOption (before ++ rest) option = before ++ addOption rest option := by
  induction before with
  | nil => rfl
  | cons other before ih =>
    obtain ⟨hother, hbefore⟩ := List.forall_mem_cons.1 h
    rw [List.cons_append, addOption_cons_of_ne hother, ih hbefore, List.cons_append]

theorem text_appendValue (h : option.key = llvmArgs) (extra : String) :
    Setting.text ⟨llvmArgs, some (appendValue option.value extra)⟩ =
      if option.value.getD "" = "" then "llvm-args=" ++ extra
      else option.text ++ " " ++ extra := by
  obtain ⟨key, value⟩ := option
  obtain rfl : key = llvmArgs := h
  cases value with
  | none => rfl
  | some own =>
    by_cases hown : own = ""
    · simp [Setting.text, appendValue, hown, llvmArgs]
    · simp [Setting.text, appendValue, hown, llvmArgs, String.append_assoc]

theorem addOption_of_first (h : ∀ other ∈ before, other.key ≠ llvmArgs)
    (hkey : option.key = llvmArgs) {extra : String} (hextra : extra ≠ "") :
    addOption (before ++ option :: after) ⟨llvmArgs, some extra⟩ =
      before ++ ⟨llvmArgs, some (appendValue option.value extra)⟩ :: after := by
  obtain ⟨key, value⟩ := option
  obtain rfl : key = llvmArgs := hkey
  have hpasses : Setting.passesArgs ⟨llvmArgs, some extra⟩ = true := passesArgs_iff.2 ⟨rfl, hextra⟩
  rw [addOption_append_of_ne h, addOption_cons_of_passesArgs hpasses]
  rfl

theorem addOption_of_none (h : ∀ other ∈ before, other.key ≠ llvmArgs) (option : Setting) :
    addOption before option = before ++ [option] := by
  have happend := addOption_append_of_ne h [] option
  rw [List.append_nil] at happend
  rw [happend]
  simp [addOption, extendLlvmArgs?]

/-! ## Arguments with and without a filter -/

namespace Flags

variable {flags : Flags}

theorem synthesize_filter_of_first (hsplit : flags.codegen = before ++ option :: after)
    (hbefore : ∀ other ∈ before, other.key ≠ llvmArgs) (hkey : option.key = llvmArgs)
    (pattern : String) :
    ∃ back,
      { flags with filter := none }.synthesize =
        flags.argsThrough before ++ "-C" :: option.text :: back ∧
      { flags with filter := some pattern }.synthesize = flags.argsThrough before ++ "-C" ::
        (if option.value.getD "" = "" then "llvm-args=" ++ filterDirective pattern
          else option.text ++ " " ++ filterDirective pattern) :: back := by
  have hdirective : filterDirective pattern ≠ "" := by
    unfold filterDirective
    simp
  refine ⟨optionArgs after ++ flags.lastArgs, ?_, ?_⟩
  · rw [synthesize_unfiltered, hsplit]
    simp [argsThrough, optionArgs]
  · rw [synthesize_filtered, hsplit, addOption_of_first hbefore hkey hdirective,
      ← text_appendValue hkey]
    simp [argsThrough, optionArgs]

theorem synthesize_filter_of_none (hnone : ∀ option ∈ flags.codegen, option.key ≠ llvmArgs)
    (pattern : String) :
    { flags with filter := none }.synthesize =
        flags.argsThrough flags.codegen ++ flags.lastArgs ∧
      { flags with filter := some pattern }.synthesize = flags.argsThrough flags.codegen ++
        "-C" :: ("llvm-args=" ++ filterDirective pattern) :: flags.lastArgs := by
  refine ⟨synthesize_unfiltered flags, ?_⟩
  rw [synthesize_filtered, addOption_of_none hnone]
  simp [argsThrough, optionArgs, Setting.text, llvmArgs]

end Flags

/-! ## Main result -/

/-- Setting a filter leaves the codegen options of a state as they are, and its arguments are those
without a filter but for one place. If there is an option for LLVM, the directive is put behind a
space at the end of the first one, or is its value if that has been empty or missing. If there is
none, the directive is an option of its own, behind all codegen options and before `-O`. If keys can
be told from values, the place is the first in the arguments at which an argument behind `-C` is an
option for LLVM, or there is no such argument. -/
theorem synthesize_filter (args : List String) (changes : List Change) (pattern : String) :
    let flags := Change.applyAll (Flags.ofArgs args) changes
    let off := Change.apply flags (.filter none)
    let on := Change.apply flags (.filter (some pattern))
    let directive := "-filter-print-funcs=" ++ pattern
    (on.codegen = flags.codegen ∧ Change.apply on (.filter none) = off) ∧
    (∀ before option after, flags.codegen = before ++ option :: after →
      (∀ other ∈ before, other.key ≠ llvmArgs) → option.key = llvmArgs →
      (∃ back,
        off.synthesize = flags.argsThrough before ++ "-C" :: option.text :: back ∧
        on.synthesize = flags.argsThrough before ++ "-C" ::
          (if option.value.getD "" = "" then "llvm-args=" ++ directive
            else option.text ++ " " ++ directive) :: back) ∧
      ((∀ change ∈ changes, change.KeySafe) →
        PassesNoArgs (flags.argsThrough before ++ ["-C"]))) ∧
    ((∀ option ∈ flags.codegen, option.key ≠ llvmArgs) →
      (off.synthesize = flags.argsThrough flags.codegen ++ flags.lastArgs ∧
        on.synthesize = flags.argsThrough flags.codegen ++
          "-C" :: ("llvm-args=" ++ directive) :: flags.lastArgs) ∧
      ((∀ change ∈ changes, change.KeySafe) → PassesNoArgs off.synthesize)) := by
  intro flags off on directive
  have hretained : PassesNoArgs flags.retained := by
    rw [Flags.retained_applyAll, PassesNoArgs, codegenValues_retained]
    simp
  have hkeys (hsafe : ∀ change ∈ changes, change.KeySafe) :
      ∀ option ∈ flags.codegen, '=' ∉ option.key.toList :=
    (Flags.readable_applyAll (Flags.readable_ofUnits _) hsafe).keys
  refine ⟨⟨rfl, rfl⟩, ?_, ?_⟩
  · intro before option after hsplit hbefore hkey
    refine ⟨Flags.synthesize_filter_of_first hsplit hbefore hkey pattern, fun hsafe => ?_⟩
    have hfront := Flags.passesNoArgs_argsThrough hretained
      (fun other ho => hkeys hsafe other (by simp [hsplit, ho])) hbefore
    exact hfront.concat (by decide)
  · intro hnone
    have hargs := Flags.synthesize_filter_of_none hnone pattern
    refine ⟨hargs, fun hsafe => ?_⟩
    have hfront := Flags.passesNoArgs_argsThrough hretained (hkeys hsafe) hnone
    have hoff : off.synthesize = flags.argsThrough flags.codegen ++ flags.lastArgs := hargs.1
    rw [hoff, Flags.lastArgs]
    split
    · exact hfront.concat (by decide)
    · rwa [List.append_nil]

/-- Of two options for LLVM the first one takes the directive. -/
example :
    let args := ["main.rs", "-Cllvm-args=-p", "-C", "llvm-args", "-O"]
    let changes : List Change := [.setCodegen "lto" none, .filter (some "add")]
    (Change.applyAll (Flags.ofArgs args) changes).synthesize =
      ["main.rs", "--emit", "llvm-ir,asm", "-C", "llvm-args=-p -filter-print-funcs=add", "-C",
        "llvm-args", "-C", "lto", "-O"] := by
  decide +kernel

end CompilerCommands.Rustc
