import CompilerCommands.Proofs.Rustc.Emission
import CompilerCommands.Proofs.Rustc.Units
import Mathlib.Data.List.Forall2

/-!
# Classes of units

Each unit can be written in a few ways, and is read back from any of them. The units of one class
change one part of the state, one after another, and leave the rest alone. So the state depends
neither on how units are written nor on where the units of one class stand among those of others.
-/

namespace CompilerCommands.Rustc

namespace ArgUnit

/-! ## Ways to write a unit -/

/-- Has no meaning to the reader of flags: it is none of the flags that are read, and does not begin
as one that has its value joined. -/
structure Plain (arg : String) : Prop where
  optimize : arg ≠ "-O"
  emit : arg ≠ "--emit" ∧ Text.begins "--emit=" arg = false
  codegen : arg ≠ "--codegen" ∧ Text.begins "--codegen=" arg = false
  short : Text.begins "-C" arg = false

/-- A unit and the arguments that write it. -/
inductive Written : ArgUnit → List String → Prop
  | emit (kinds : String) : Written (emit kinds) ["--emit", kinds]
  | emitJoined (kinds : String) : Written (emit kinds) ["--emit=" ++ kinds]
  | codegen (option : String) : Written (codegen option) ["--codegen", option]
  | codegenJoined (option : String) : Written (codegen option) ["--codegen=" ++ option]
  | short (option : String) : Written (codegen option) ["-C", option]
  | shortJoined {option : String} (h : option ≠ "") : Written (codegen option) ["-C" ++ option]
  | optimize : Written optimize ["-O"]
  | retained {arg : String} (h : Plain arg) : Written (retained arg) [arg]

theorem after?_of_not_begins {start arg : String} (h : Text.begins start arg = false) :
    Text.after? start arg = none := by
  rw [Text.after?, h]
  rfl

theorem not_begins_append {start other : String} (h : Text.begins start other = false)
    (h' : Text.begins other start = false) (rest : String) :
    Text.begins other (start ++ rest) = false := by
  refine Bool.eq_false_iff.2 fun hbegins => ?_
  rcases Text.begins_or_begins (Text.begins_append start rest) hbegins with hclash | hclash
  · exact Bool.false_ne_true (h.symm.trans hclash)
  · exact Bool.false_ne_true (h'.symm.trans hclash)

theorem append_not_mem_pairFlags {start : String}
    (h : ∀ flag ∈ pairFlags, Text.begins start flag = false) (rest : String) :
    start ++ rest ∉ pairFlags := fun hmem =>
  Bool.false_ne_true ((h _ hmem).symm.trans (Text.begins_append start rest))

theorem ofSingle_emit (kinds : String) : ofSingle ("--emit=" ++ kinds) = emit kinds := by
  rw [ofSingle, Text.after?_append]

theorem ofSingle_codegen (option : String) :
    ofSingle ("--codegen=" ++ option) = codegen option := by
  rw [ofSingle, after?_of_not_begins (not_begins_append (by decide) (by decide) option),
    Text.after?_append]

theorem ofSingle_short {option : String} (h : option ≠ "") :
    ofSingle ("-C" ++ option) = codegen option := by
  rw [ofSingle, after?_of_not_begins (not_begins_append (by decide) (by decide) option),
    after?_of_not_begins (not_begins_append (by decide) (by decide) option), Text.after?_append]
  simp [h]

/-- What has no meaning to the reader is what it keeps wherever it stands. -/
theorem standsAlone_iff {arg : String} : StandsAlone arg ↔ Plain arg := by
  constructor
  · rintro ⟨hsingle, hpair⟩
    simp only [pairFlags, List.mem_cons, List.not_mem_nil, or_false, not_or] at hpair
    have hjoined {start : String} (h : ∀ rest, ofSingle (start ++ rest) ≠ retained arg) :
        Text.begins start arg = false := by
      refine Bool.eq_false_iff.2 fun hbegins => ?_
      obtain ⟨rest, rfl⟩ := Text.begins_iff.1 hbegins
      exact h rest hsingle
    refine ⟨?_, ⟨hpair.1, hjoined fun rest => ?_⟩, ⟨hpair.2.2, hjoined fun rest => ?_⟩, ?_⟩
    · rintro rfl
      exact absurd hsingle (by decide)
    · rw [ofSingle_emit]
      exact ArgUnit.noConfusion
    · rw [ofSingle_codegen]
      exact ArgUnit.noConfusion
    · refine Bool.eq_false_iff.2 fun hbegins => ?_
      obtain ⟨rest, rfl⟩ := Text.begins_iff.1 hbegins
      by_cases hrest : rest = ""
      · exact hpair.2.1 (by rw [hrest]; rfl)
      · rw [ofSingle_short hrest] at hsingle
        cases hsingle
  · rintro ⟨hoptimize, hemit, hcodegen, hshort⟩
    refine ⟨?_, ?_⟩
    · rw [ofSingle, after?_of_not_begins hemit.2, after?_of_not_begins hcodegen.2,
        after?_of_not_begins hshort]
      simp only [if_neg hoptimize]
    · have hflag : arg ≠ "-C" := by
        rintro rfl
        exact absurd hshort (by decide)
      simp only [pairFlags, List.mem_cons, List.not_mem_nil, or_false, not_or]
      exact ⟨hemit.1, hflag, hcodegen.1⟩

theorem ofArgs_cons_of_not_mem {arg : String} (h : arg ∉ pairFlags) (rest : List String) :
    ofArgs (arg :: rest) = ofSingle arg :: ofArgs rest := by
  cases rest with
  | nil => rfl
  | cons next rest => rw [ofArgs, ofPair?_eq_none h]

theorem Written.ofArgs_append {unit : ArgUnit} {piece : List String} (h : Written unit piece)
    (rest : List String) : ofArgs (piece ++ rest) = unit :: ofArgs rest := by
  cases h with
  | emit kinds => rfl
  | codegen option => rfl
  | short option => rfl
  | emitJoined kinds =>
    have hflag : "--emit=" ++ kinds ∉ pairFlags := append_not_mem_pairFlags (by decide) kinds
    rw [List.cons_append, List.nil_append, ofArgs_cons_of_not_mem hflag, ofSingle_emit]
  | codegenJoined option =>
    have hflag : "--codegen=" ++ option ∉ pairFlags := append_not_mem_pairFlags (by decide) option
    rw [List.cons_append, List.nil_append, ofArgs_cons_of_not_mem hflag, ofSingle_codegen]
  | @shortJoined option hne =>
    have hflag : "-C" ++ option ∉ pairFlags := by
      intro hmem
      have hbegins : ∀ flag ∈ pairFlags, Text.begins "-C" flag = true → flag = "-C" := by decide
      have hsame := hbegins _ hmem (Text.begins_append "-C" option)
      exact hne (String.toList_inj.1 (by simpa using congrArg String.toList hsame))
    rw [List.cons_append, List.nil_append, ofArgs_cons_of_not_mem hflag, ofSingle_short hne]
  | optimize => exact ofArgs_cons_of_not_mem (by decide) rest
  | retained h => exact ofArgs_cons_of_standsAlone (standsAlone_iff.2 h) rest

theorem ofArgs_flatten_written {units : List ArgUnit} {pieces : List (List String)}
    (h : List.Forall₂ Written units pieces) : ofArgs pieces.flatten = units := by
  induction h with
  | nil => rfl
  | cons hpiece _ ih => rw [List.flatten_cons, hpiece.ofArgs_append, ih]

/-! ## One class -/

inductive Subject where
  | emission
  | codegen
  | optimization
  | other
  deriving DecidableEq, Repr

def subject : ArgUnit → Subject
  | emit _ => .emission
  | codegen _ => .codegen
  | optimize => .optimization
  | retained _ => .other

def emit? : ArgUnit → Option String
  | emit kinds => some kinds
  | _ => none

def codegen? : ArgUnit → Option String
  | codegen option => some option
  | _ => none

end ArgUnit

/-- A view of the state in which only some units count, each by what it says, sees these units one
after another. -/
theorem view_foldl_apply {α β : Type} (view : Flags → α) (part : ArgUnit → Option β)
    (change : α → β → α)
    (h : ∀ flags unit, view (ArgUnit.apply flags unit) =
      (part unit).elim (view flags) (change (view flags)))
    (flags : Flags) (units : List ArgUnit) :
    view (units.foldl ArgUnit.apply flags) = (units.filterMap part).foldl change (view flags) := by
  induction units generalizing flags with
  | nil => rfl
  | cons unit rest ih =>
    rw [List.foldl_cons, ih, h, List.filterMap_cons]
    cases part unit <;> rfl

namespace Flags

def onlyEmission (flags : Flags) : Flags :=
  { flags with retained := [], codegen := [], optimize := false, filter := none }

theorem onlyEmission_recordItem (flags : Flags) (item : Setting) :
    (flags.recordItem item).onlyEmission = flags.onlyEmission.recordItem item := by
  unfold recordItem
  split
  · rfl
  · cases Artifact.ofName? item.key with
    | none =>
      simp only
      rw [show flags.onlyEmission.otherEmits = flags.otherEmits from rfl]
      split <;> rfl
    | some artifact => cases item.value <;> cases artifact <;> rfl

theorem onlyEmission_recordEmit (flags : Flags) (kinds : String) :
    (flags.recordEmit kinds).onlyEmission = flags.onlyEmission.recordEmit kinds := by
  unfold recordEmit
  induction emitItems kinds generalizing flags with
  | nil => rfl
  | cons item rest ih => rw [List.foldl_cons, ih, onlyEmission_recordItem, List.foldl_cons]

/-- What emissions ask for, one after another. If there are none, the artifacts are emitted. -/
def ofEmissions : List String → Flags
  | [] => {}
  | kinds => kinds.foldl recordEmit { emitLlvmIr := false, emitAsm := false }

variable (units : List ArgUnit)

theorem onlyEmission_ofUnits :
    (ofUnits units).onlyEmission = ofEmissions (units.filterMap ArgUnit.emit?) := by
  rw [ofUnits, view_foldl_apply onlyEmission ArgUnit.emit? recordEmit]
  · cases hemits : units.filterMap ArgUnit.emit? with
    | nil =>
      have hnone : units.any ArgUnit.isEmit = false := by
        rw [List.any_eq_false]
        intro unit hunit
        have := List.filterMap_eq_nil_iff.1 hemits unit hunit
        cases unit <;> simp_all [ArgUnit.emit?, ArgUnit.isEmit]
      rw [initial, hnone]
      rfl
    | cons kinds rest =>
      have hsome : units.any ArgUnit.isEmit = true := by
        have hmem : kinds ∈ units.filterMap ArgUnit.emit? := by rw [hemits]; exact .head _
        obtain ⟨unit, hunit, hkinds⟩ := List.mem_filterMap.1 hmem
        rw [List.any_eq_true]
        refine ⟨unit, hunit, ?_⟩
        cases unit <;> simp_all [ArgUnit.emit?, ArgUnit.isEmit]
      rw [initial, hsome]
      rfl
  · intro flags unit
    cases unit with
    | emit kinds => exact onlyEmission_recordEmit flags kinds
    | _ => rfl

theorem codegen_ofUnits :
    (ofUnits units).codegen = (units.filterMap ArgUnit.codegen?).foldl
      (fun options option => addOption options (Setting.ofString option)) [] := by
  rw [ofUnits, view_foldl_apply codegen ArgUnit.codegen?
    fun options option => addOption options (Setting.ofString option)]
  · rfl
  · intro flags unit
    cases unit with
    | emit kinds => exact codegen_recordEmit flags kinds
    | _ => rfl

theorem retained_ofUnits : (ofUnits units).retained = units.filterMap ArgUnit.retained? := by
  rw [ofUnits, view_foldl_apply retained ArgUnit.retained? fun kept arg => kept ++ [arg]]
  · rw [List.foldl_append_eq_append, ← List.flatMap_def, List.flatMap_singleton']
    rfl
  · intro flags unit
    cases unit with
    | emit kinds => exact retained_recordEmit flags kinds
    | _ => rfl

theorem filter_ofUnits : (ofUnits units).filter = none := by
  rw [ofUnits, view_foldl_apply filter (fun _ => (none : Option Unit)) fun pattern _ => pattern]
  · simp [initial]
  · intro flags unit
    cases unit with
    | emit kinds => exact filter_recordEmit flags kinds
    | _ => rfl

theorem optimize_ofUnits : (ofUnits units).optimize = decide (ArgUnit.optimize ∈ units) := by
  suffices h : ∀ flags : Flags, (units.foldl ArgUnit.apply flags).optimize =
      (flags.optimize || decide (ArgUnit.optimize ∈ units)) from (h _).trans (Bool.false_or _)
  induction units with
  | nil => simp
  | cons unit rest ih =>
    intro flags
    rw [List.foldl_cons, ih]
    cases unit <;> simp [ArgUnit.apply, addCodegen]

theorem ofUnits_eq : ofUnits units =
    { ofEmissions (units.filterMap ArgUnit.emit?) with
      retained := units.filterMap ArgUnit.retained?
      codegen := (units.filterMap ArgUnit.codegen?).foldl
        (fun options option => addOption options (Setting.ofString option)) []
      optimize := decide (ArgUnit.optimize ∈ units)
      filter := none } := by
  rw [← onlyEmission_ofUnits, ← retained_ofUnits, ← codegen_ofUnits, ← optimize_ofUnits,
    ← filter_ofUnits]
  rfl

theorem filterMap_swap {α β : Type} {part : α → Option β} {a b : α}
    (h : part a = none ∨ part b = none) (front rest : List α) :
    (front ++ a :: b :: rest).filterMap part = (front ++ b :: a :: rest).filterMap part := by
  rcases h with h | h <;> simp [List.filterMap_cons, h]

theorem ofUnits_swap {a b : ArgUnit} (h : a.subject ≠ b.subject) (front rest : List ArgUnit) :
    ofUnits (front ++ a :: b :: rest) = ofUnits (front ++ b :: a :: rest) := by
  have hemit : a.emit? = none ∨ b.emit? = none := by
    cases a <;> cases b <;> simp_all [ArgUnit.subject, ArgUnit.emit?]
  have hcodegen : a.codegen? = none ∨ b.codegen? = none := by
    cases a <;> cases b <;> simp_all [ArgUnit.subject, ArgUnit.codegen?]
  have hretained : a.retained? = none ∨ b.retained? = none := by
    cases a <;> cases b <;> simp_all [ArgUnit.subject, ArgUnit.retained?]
  have hmem : ArgUnit.optimize ∈ front ++ a :: b :: rest ↔
      ArgUnit.optimize ∈ front ++ b :: a :: rest := by
    simp only [List.mem_append, List.mem_cons, or_left_comm]
  rw [ofUnits_eq, ofUnits_eq, filterMap_swap hemit, filterMap_swap hcodegen,
    filterMap_swap hretained, decide_eq_decide.2 hmem]

end Flags

/-! ## Main result -/

open ArgUnit (Written)

/-- Arguments that write units lead to the state that has the kept arguments in order, `-O` if it is
among the units, the codegen options merged one after another, and what the emissions ask for one
after another, or both artifacts if there are none. So the arguments of that state are the same
however each unit is written, and whichever of two neighbours about different subjects comes
first. -/
theorem ofArgs_flatten_eq {units : List ArgUnit} {pieces : List (List String)}
    (h : List.Forall₂ Written units pieces) :
    Flags.ofArgs pieces.flatten =
      { Flags.ofEmissions (units.filterMap ArgUnit.emit?) with
        retained := units.filterMap ArgUnit.retained?
        codegen := (units.filterMap ArgUnit.codegen?).foldl
          (fun options option => addOption options (Setting.ofString option)) []
        optimize := decide (ArgUnit.optimize ∈ units)
        filter := none } ∧
    (∀ others, List.Forall₂ Written units others →
      (Flags.ofArgs others.flatten).synthesize = (Flags.ofArgs pieces.flatten).synthesize) ∧
    ∀ front a b rest, units = front ++ a :: b :: rest → a.subject ≠ b.subject →
      ∀ others, List.Forall₂ Written (front ++ b :: a :: rest) others →
        (Flags.ofArgs others.flatten).synthesize = (Flags.ofArgs pieces.flatten).synthesize := by
  have hunits {units : List ArgUnit} {pieces : List (List String)}
      (h : List.Forall₂ Written units pieces) :
      Flags.ofArgs pieces.flatten = Flags.ofUnits units := by
    rw [Flags.ofArgs, ArgUnit.ofArgs_flatten_written h]
  rw [hunits h]
  refine ⟨Flags.ofUnits_eq units, fun others hothers => ?_, ?_⟩
  · rw [hunits hothers]
  · rintro front a b rest rfl hne others hothers
    rw [hunits hothers, Flags.ofUnits_swap hne]

/-- Both kinds of flags written in two ways, with values that look like flags; the emission and the
codegen option before it change places. -/
theorem ofArgs_flatten_eq_mixed :
    let units : List ArgUnit :=
      [.retained "main.rs", .codegen "--emit", .emit "asm=-O,link", .optimize,
        .codegen "llvm-args=-p", .retained "-o", .codegen "llvm-args=-q"]
    let pieces := [["main.rs"], ["-C", "--emit"], ["--emit", "asm=-O,link"], ["-O"],
      ["-Cllvm-args=-p"], ["-o"], ["--codegen=llvm-args=-q"]]
    let swapped := [["main.rs"], ["--emit=asm=-O,link"], ["--codegen", "--emit"], ["-O"],
      ["-C", "llvm-args=-p"], ["-o"], ["-Cllvm-args=-q"]]
    List.Forall₂ Written units pieces ∧
      Flags.ofArgs pieces.flatten =
        { retained := ["main.rs", "-o"], emitLlvmIr := false, emitAsm := true,
          otherEmits := [⟨"link", none⟩], asmPath := some "-O",
          codegen := [⟨"--emit", none⟩, ⟨"llvm-args", some "-p -q"⟩], optimize := true } ∧
      (Flags.ofArgs swapped.flatten).synthesize = (Flags.ofArgs pieces.flatten).synthesize := by
  intro units pieces swapped
  have hmain : ArgUnit.Plain "main.rs" := ⟨by decide, by decide, by decide, by decide⟩
  have hoption : ArgUnit.Plain "-o" := ⟨by decide, by decide, by decide, by decide⟩
  have hpieces : List.Forall₂ Written units pieces :=
    .cons (.retained hmain) <| .cons (.short _) <| .cons (.emit _) <| .cons .optimize <|
      .cons (.shortJoined (by decide)) <| .cons (.retained hoption) <|
      .cons (.codegenJoined "llvm-args=-q") .nil
  have hswapped : List.Forall₂ Written ([.retained "main.rs"] ++ .emit "asm=-O,link" ::
      .codegen "--emit" :: [.optimize, .codegen "llvm-args=-p", .retained "-o",
        .codegen "llvm-args=-q"]) swapped :=
    .cons (.retained hmain) <| .cons (.emitJoined "asm=-O,link") <| .cons (.codegen _) <|
      .cons .optimize <| .cons (.short _) <| .cons (.retained hoption) <|
      .cons (.shortJoined (by decide)) .nil
  obtain ⟨hstate, -, hswap⟩ := ofArgs_flatten_eq hpieces
  refine ⟨hpieces, hstate.trans (by decide +kernel), ?_⟩
  exact hswap [.retained "main.rs"] _ _ _ rfl (by decide) swapped hswapped

end CompilerCommands.Rustc
