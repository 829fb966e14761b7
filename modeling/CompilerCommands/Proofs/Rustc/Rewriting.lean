import CompilerCommands.Command.Basic
import CompilerCommands.Proofs.Arguments.FlagValues
import CompilerCommands.Proofs.Rustc.Reading
import CompilerCommands.Proofs.Rustc.RoundTrip

/-!
# Building a rustc command again

The arguments of a rustc command are read three times: for its inputs, for its output, and for its
flags. The reading for flags does not know which other flags take a value. Where it takes no value
from a flag, the arguments that the flags give have the inputs of the first ones and each flag that
is kept has its value (`keptOperands`); where moreover nothing that it moves names the output, they
have the same output.
-/

namespace CompilerCommands

/-! ## Operands -/

namespace Arguments

/-- An argument that is no flag, and the flag whose value it is. -/
structure Operand where
  flag : Option String
  text : String
  deriving DecidableEq, Repr

/-- The positional arguments and the values of flags, in order, when the first argument is the value
of `pending`. -/
def operandsFrom (valueFlags : List String) : Option String → List String → List Operand
  | _, [] => []
  | some flag, value :: rest => ⟨some flag, value⟩ :: operandsFrom valueFlags none rest
  | none, arg :: rest =>
    if valueFlags.contains arg then operandsFrom valueFlags (some arg) rest
    else if isFlag arg then operandsFrom valueFlags none rest
    else ⟨none, arg⟩ :: operandsFrom valueFlags none rest

theorem positionalFrom_eq_operandsFrom (valueFlags : List String) (pending : Option String)
    (args : List String) :
    positionalFrom valueFlags pending.isSome args =
      ((operandsFrom valueFlags pending args).filter (·.flag.isNone)).map Operand.text := by
  fun_induction operandsFrom valueFlags pending args with
  | case1 pending => cases pending <;> rfl
  | case2 flag value rest ih => simpa [positionalFrom] using ih
  | case3 arg rest hv ih =>
    rw [Option.isSome_none, positionalFrom, if_pos hv]
    exact ih
  | case4 arg rest hv hf ih =>
    rw [Option.isSome_none, positionalFrom, if_neg hv, if_pos hf]
    exact ih
  | case5 arg rest hv hf ih =>
    rw [Option.isSome_none, positionalFrom, if_neg hv, if_neg hf]
    simpa using ih

end Arguments

namespace Rustc

open Arguments (Operand operandsFrom isFlag assigned? separateValue? joinedPath? flagValue?
  positional separateValue?_cons_of_not_mem)

variable {arg flag : String}

/-! ## Operands that are kept -/

/-- The operands but those that say what to emit or how to generate code. -/
def keptOperandsFrom (pending : Option String) (args : List String) : List Operand :=
  (operandsFrom valueFlags pending args).filter fun operand =>
    !operand.flag.any (pairFlags.contains ·)

def keptOperands (args : List String) : List Operand := keptOperandsFrom none args

theorem positional_eq_keptOperands (args : List String) :
    positional valueFlags args =
      ((keptOperands args).filter (·.flag.isNone)).map Operand.text := by
  rw [positional, ← Option.isSome_none, Arguments.positionalFrom_eq_operandsFrom, keptOperands,
    keptOperandsFrom, List.filter_filter]
  congr 1
  refine List.filter_congr fun operand _ => ?_
  cases operand.flag <;> simp

theorem keptOperandsFrom_of_pairFlag (h : flag ∈ pairFlags) (value : String) (rest : List String) :
    keptOperandsFrom none (flag :: value :: rest) = keptOperandsFrom none rest := by
  have hsub : ∀ flag ∈ pairFlags, flag ∈ valueFlags := by decide
  simp [keptOperandsFrom, operandsFrom, hsub flag h, h]

theorem keptOperandsFrom_of_isFlag (hv : arg ∉ valueFlags) (hf : isFlag arg = true)
    (rest : List String) : keptOperandsFrom none (arg :: rest) = keptOperandsFrom none rest := by
  simp [keptOperandsFrom, operandsFrom, hv, hf]

namespace ArgUnit.ReadAs

variable {args tail : List String} {units : List ArgUnit}

/-- Leaving out what is not kept leaves the positional arguments and the values of flags that are
kept. The induction goes through arguments whose first one may be a value: then it is kept. -/
theorem keptOperandsFrom_eq (h : ReadAs args units) {pending : Option String}
    (ha : attached units = true) (hp : pending.isSome = true → startsKept units = true)
    (ht : keptOperandsFrom none tail = []) :
    keptOperandsFrom pending (units.filterMap retained? ++ tail) =
      keptOperandsFrom pending args := by
  have hpending {unit : ArgUnit} {rest : List ArgUnit} (hmoved : unit.retained? = none)
      {pending : Option String} (hp : pending.isSome = true → startsKept (unit :: rest) = true) :
      pending = none :=
    Option.not_isSome_iff_eq_none.1 fun hs => not_startsKept hmoved rest (hp hs)
  induction h generalizing pending with
  | nil =>
    cases pending with
    | some flag => exact absurd (hp rfl) (by decide)
    | none => exact ht
  | @kept arg rest units h ih =>
    have hrest := @ih none (attached_of_cons ha) (by simp)
    cases pending with
    | some flag =>
      simp only [keptOperandsFrom, operandsFrom, List.filterMap_cons, retained?, List.cons_append,
        List.filter_cons] at hrest ⊢
      rw [hrest]
    | none =>
      by_cases hv : arg ∈ valueFlags
      · have hvalue := @ih (some arg) (attached_of_cons ha) fun _ => startsKept_of_attached ha hv
        simpa [keptOperandsFrom, operandsFrom, retained?, hv] using hvalue
      · by_cases hf : isFlag arg = true
        · simpa [keptOperandsFrom, operandsFrom, retained?, hv, hf] using hrest
        · simpa [keptOperandsFrom, operandsFrom, retained?, hv, hf] using hrest
  | single hmoved hvalue hflag _ h ih =>
    obtain rfl := hpending hmoved hp
    rw [List.filterMap_cons, hmoved, keptOperandsFrom_of_isFlag hvalue hflag]
    exact ih (attached_of_cons ha) (by simp)
  | pair hmoved hflag _ h ih =>
    obtain rfl := hpending hmoved hp
    rw [List.filterMap_cons, hmoved, keptOperandsFrom_of_pairFlag hflag]
    exact ih (attached_of_cons ha) (by simp)

end ArgUnit.ReadAs

/-! ## The output -/

theorem separateValue?_cons (h : namesOutput arg = false) (hf : flag ∈ outputFlags)
    (rest : List String) : separateValue? [flag] (arg :: rest) = separateValue? [flag] rest := by
  obtain ⟨hne, hassigned⟩ := not_namesOutput h hf
  rw [separateValue?_cons_of_not_mem (mt List.mem_singleton.1 hne), hassigned, Option.none_or]

theorem separateValue?_eq_none {args : List String} (h : ∀ arg ∈ args, namesOutput arg = false)
    (hf : flag ∈ outputFlags) : separateValue? [flag] args = none := by
  induction args with
  | nil => rfl
  | cons arg rest ih =>
    rw [separateValue?_cons (h arg (by simp)) hf]
    exact ih fun other ho => h other (List.mem_cons_of_mem _ ho)

namespace ArgUnit.ReadAs

variable {args tail : List String} {units : List ArgUnit}

theorem separateValue?_eq (h : ReadAs args units) (ha : attached units = true)
    (hn : ∀ unit ∈ units, ∀ text ∈ unit.text?, namesOutput text = false)
    (ht : ∀ arg ∈ tail, namesOutput arg = false) (hf : flag ∈ outputFlags) :
    separateValue? [flag] (units.filterMap retained? ++ tail) = separateValue? [flag] args := by
  induction h with
  | nil => exact separateValue?_eq_none ht hf
  | @kept arg rest units h ih =>
    have hrest := ih (attached_of_cons ha) (List.forall_mem_cons.1 hn).2
    simp only [List.filterMap_cons, retained?, List.cons_append]
    by_cases harg : arg = flag
    · subst harg
      have hsub : ∀ flag ∈ outputFlags, flag ∈ valueFlags := by decide
      obtain ⟨value, others, kept, rfl, rfl⟩ :=
        h.of_startsKept (startsKept_of_attached ha (hsub arg hf))
      simp [separateValue?, retained?]
    · have hmem : arg ∉ [flag] := mt List.mem_singleton.1 harg
      rw [separateValue?_cons_of_not_mem hmem, separateValue?_cons_of_not_mem hmem, hrest]
  | single hmoved _ _ hnames _ ih =>
    rw [List.filterMap_cons, hmoved, separateValue?_cons hnames hf]
    exact ih (attached_of_cons ha) (List.forall_mem_cons.1 hn).2
  | pair hmoved hflag htext _ ih =>
    obtain ⟨hvalue, hrest⟩ := List.forall_mem_cons.1 hn
    rw [List.filterMap_cons, hmoved, separateValue?_cons (not_namesOutput_of_pairFlag hflag) hf,
      separateValue?_cons (hvalue _ htext) hf]
    exact ih (attached_of_cons ha) hrest

theorem findSome?_joinedPath?_eq (h : ReadAs args units)
    (hn : ∀ unit ∈ units, ∀ text ∈ unit.text?, namesOutput text = false)
    (ht : ∀ arg ∈ tail, namesOutput arg = false) :
    (units.filterMap retained? ++ tail).findSome? joinedPath? = args.findSome? joinedPath? := by
  induction h with
  | nil =>
    exact List.findSome?_eq_none_iff.2 fun arg ha => joinedPath?_of_not_namesOutput (ht arg ha)
  | @kept arg rest units _ ih =>
    simp only [List.filterMap_cons, retained?, List.cons_append, List.findSome?_cons,
      ih (List.forall_mem_cons.1 hn).2]
  | single hmoved _ _ hnames _ ih =>
    rw [List.filterMap_cons, hmoved, List.findSome?_cons, joinedPath?_of_not_namesOutput hnames]
    exact ih (List.forall_mem_cons.1 hn).2
  | pair hmoved hflag htext _ ih =>
    obtain ⟨hvalue, hrest⟩ := List.forall_mem_cons.1 hn
    rw [List.filterMap_cons, hmoved, List.findSome?_cons,
      joinedPath?_of_not_namesOutput (not_namesOutput_of_pairFlag hflag), List.findSome?_cons,
      joinedPath?_of_not_namesOutput (hvalue _ htext)]
    exact ih hrest

end ArgUnit.ReadAs

/-! ## The arguments of a state -/

namespace Flags

variable {args : List String} {flags : Flags}

def addedArgs (flags : Flags) : List String :=
  flags.emitArgs ++ flags.codegenArgs ++ if flags.optimize then ["-O"] else []

theorem synthesize_eq (flags : Flags) : flags.synthesize = flags.retained ++ flags.addedArgs := by
  simp [synthesize, addedArgs]

theorem keptOperandsFrom_addedArgs (flags : Flags) :
    keptOperandsFrom none flags.addedArgs = [] := by
  have hoptimize : keptOperandsFrom none (if flags.optimize then ["-O"] else []) = [] := by
    cases flags.optimize <;> decide
  have hcodegen (options : List Setting) (rest : List String) :
      keptOperandsFrom none ((options.flatMap fun option => ["-C", option.text]) ++ rest) =
        keptOperandsFrom none rest := by
    induction options with
    | nil => rfl
    | cons option others ih =>
      exact (keptOperandsFrom_of_pairFlag (by decide) option.text _).trans ih
  rw [addedArgs, emitArgs, List.append_assoc]
  split
  · exact (hcodegen _ _).trans hoptimize
  · exact (keptOperandsFrom_of_pairFlag (by decide) _ _).trans ((hcodegen _ _).trans hoptimize)

theorem keptOperands_synthesize (h : ArgUnit.attached (ArgUnit.ofArgs args) = true)
    (hr : flags.retained = (ofArgs args).retained) :
    keptOperands flags.synthesize = keptOperands args := by
  rw [synthesize_eq, hr, ofArgs, retained_ofUnits]
  exact (ArgUnit.readAs_ofArgs args).keptOperandsFrom_eq h (by simp)
    flags.keptOperandsFrom_addedArgs

theorem inputs_synthesize (h : ArgUnit.attached (ArgUnit.ofArgs args) = true)
    (hr : flags.retained = (ofArgs args).retained) : inputs flags.synthesize = inputs args := by
  rw [inputs, positional_eq_keptOperands, keptOperands_synthesize h hr,
    ← positional_eq_keptOperands, inputs]

/-- Nothing about what to emit or how to generate code, as `args` or as the state say it, names the
output. -/
structure KeepsOutput (args : List String) (flags : Flags) : Prop where
  read : ∀ unit ∈ ArgUnit.ofArgs args, ∀ text ∈ unit.text?, namesOutput text = false
  added : ∀ arg ∈ flags.emitArgs ++ flags.codegenArgs, namesOutput arg = false

instance (args : List String) (flags : Flags) : Decidable (KeepsOutput args flags) :=
  decidable_of_iff
    ((∀ unit ∈ ArgUnit.ofArgs args, ∀ text ∈ unit.text?, namesOutput text = false) ∧
      ∀ arg ∈ flags.emitArgs ++ flags.codegenArgs, namesOutput arg = false)
    ⟨fun h => ⟨h.1, h.2⟩, fun h => ⟨h.read, h.added⟩⟩

theorem KeepsOutput.addedArgs (h : KeepsOutput args flags) :
    ∀ arg ∈ flags.addedArgs, namesOutput arg = false := by
  intro arg ha
  rcases List.mem_append.1 ha with ha | ha
  · exact h.added arg ha
  · have hO : arg = "-O" := by
      revert ha
      cases flags.optimize <;> simp
    rw [hO]
    decide

theorem KeepsOutput.flagValue?_synthesize (h : KeepsOutput args flags)
    (ha : ArgUnit.attached (ArgUnit.ofArgs args) = true)
    (hr : flags.retained = (ofArgs args).retained) (hf : flag ∈ outputFlags) :
    flagValue? flags.synthesize [flag] true = flagValue? args [flag] true := by
  have hread := ArgUnit.readAs_ofArgs args
  rw [synthesize_eq, hr, ofArgs, retained_ofUnits, flagValue?, flagValue?,
    hread.separateValue?_eq ha h.read h.addedArgs hf,
    hread.findSome?_joinedPath?_eq h.read h.addedArgs]

theorem KeepsOutput.outputPath_synthesize (h : KeepsOutput args flags)
    (ha : ArgUnit.attached (ArgUnit.ofArgs args) = true)
    (hr : flags.retained = (ofArgs args).retained) :
    outputPath flags.synthesize = outputPath args := by
  have hvalue {flag : String} (hf : flag ∈ outputFlags) := h.flagValue?_synthesize ha hr hf
  have hdir : inOutDir flags.synthesize = inOutDir args := by
    funext name
    rw [inOutDir, hvalue (by decide), inOutDir]
  have hcrate : crateName? flags.synthesize = crateName? args := by
    rw [crateName?, hvalue (by decide), inputs_synthesize ha hr, crateName?]
  rw [outputPath, hvalue (by decide), hcrate, hdir, outputPath]

end Flags

/-! ## Main result -/

/-- The command that is built from the arguments a command has now. -/
def rebuilt (command : Command) : Command :=
  Command.ofRustc { command.call with args := command.args }

/-- Whatever is changed about its flags, a rustc command whose values stay with their flags has the
inputs and the values of kept flags that it was made with when it is built again, and the output too
if nothing about its flags names it. -/
theorem rebuilt_reads_same {call : Invocation} {changes : List Change}
    (h : ArgUnit.attached (ArgUnit.ofArgs call.args) = true) :
    let flags := Change.applyAll (Flags.ofArgs call.args) changes
    let command := (Command.ofRustc call).mapFlags fun flags => Change.applyAll flags changes
    inputs (rebuilt command).call.args = inputs call.args ∧
      keptOperands (rebuilt command).call.args = keptOperands call.args ∧
      (Flags.KeepsOutput call.args flags →
        (rebuilt command).outputPath = (Command.ofRustc call).outputPath) := by
  intro flags command
  have hr : flags.retained = (Flags.ofArgs call.args).retained := Flags.retained_applyAll _ _
  exact ⟨Flags.inputs_synthesize h hr, Flags.keptOperands_synthesize h hr,
    fun ho => ho.outputPath_synthesize h hr⟩

theorem rebuilt_reads_same_library :
    let args := ["--crate-type", "lib", "-Copt-level=2", "-L", "deps", "src/lib.rs", "--emit",
      "link,asm=x.s", "--crate-name", "core", "-O", "--out-dir", "out"]
    let call : Invocation :=
      { rawLine := "", executable := "rustc", args, workingDir := Path.ofString "/work" }
    let changes : List Change := [.setCodegen "debuginfo" (some "1"), .emit .llvmIr true]
    let flags := Change.applyAll (Flags.ofArgs args) changes
    let command := (Command.ofRustc call).mapFlags fun flags => Change.applyAll flags changes
    ArgUnit.attached (ArgUnit.ofArgs args) = true ∧ Flags.KeepsOutput args flags ∧
      inputs (rebuilt command).call.args = ["src/lib.rs"] ∧
      keptOperands (rebuilt command).call.args =
        [⟨some "--crate-type", "lib"⟩, ⟨some "-L", "deps"⟩, ⟨none, "src/lib.rs"⟩,
          ⟨some "--crate-name", "core"⟩, ⟨some "--out-dir", "out"⟩] ∧
      (rebuilt command).outputPath = some "out/core" := by
  intro args call changes flags command
  have ha : ArgUnit.attached (ArgUnit.ofArgs call.args) = true := by decide +kernel
  have ho : Flags.KeepsOutput call.args flags := by decide +kernel
  obtain ⟨hinputs, hoperands, houtput⟩ := @rebuilt_reads_same call changes ha
  exact ⟨ha, ho, hinputs.trans (by decide +kernel), hoperands.trans (by decide +kernel),
    (houtput ho).trans (by decide +kernel)⟩

/-- A value that begins as a flag of rustc is taken from its flag: the source becomes the output. -/
theorem rebuilt_reads_other :
    let call : Invocation :=
      { rawLine := "rustc -o -O main.rs", executable := "rustc", args := ["-o", "-O", "main.rs"],
        workingDir := Path.ofString "/work" }
    let command := Command.ofRustc call
    inputs call.args = ["main.rs"] ∧ command.outputPath = some "-O" ∧
      inputs (rebuilt command).call.args = [] ∧
      (rebuilt command).outputPath = some "main.rs" := by
  decide +kernel

end Rustc

end CompilerCommands
