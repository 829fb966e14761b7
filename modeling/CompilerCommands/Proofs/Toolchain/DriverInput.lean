import CompilerCommands.Command.Basic
import CompilerCommands.Proofs.Arguments.Positions

/-!
# The input of a driver

A driver's input is the first source among its positional arguments. Flags and their values have no
part in it, whatever they look like.
-/

namespace CompilerCommands.Driver

open Arguments (pendingAfter IsPositional)

variable {driver : Driver} {a : List String} {flag : String}

theorem inputPath_insert_pair (ha : pendingAfter driver.valueFlags false a = false)
    (hf : flag ∈ driver.valueFlags) (value : String) (b : List String) :
    driver.inputPath (a ++ flag :: value :: b) = driver.inputPath (a ++ b) := by
  rw [inputPath, Arguments.positional_insert_pair ha hf, inputPath]

theorem inputPath_insert_flag (ha : pendingAfter driver.valueFlags false a = false)
    (hv : flag ∉ driver.valueFlags) (hf : Arguments.isFlag flag = true) (b : List String) :
    driver.inputPath (a ++ flag :: b) = driver.inputPath (a ++ b) := by
  rw [inputPath, Arguments.positional_insert_flag ha hv hf, inputPath]

/-- Behind `front`, `arg` is a positional argument with the suffix of a source. -/
structure IsSource (driver : Driver) (front : List String) (arg : String) : Prop where
  positional : IsPositional driver.valueFlags front arg
  suffix : hasSuffix arg driver.sourceSuffixes = true

theorem inputPath_eq_some_iff {args : List String} {path : String} :
    driver.inputPath args = some path ↔
      ∃ front back, args = front ++ path :: back ∧ driver.IsSource front path ∧
        ∀ before earlier after, front = before ++ earlier :: after →
          ¬driver.IsSource before earlier := by
  rw [inputPath, Arguments.find?_positional_eq_some_iff]
  constructor
  · rintro ⟨front, back, rfl, hpath, hsuffix, hfirst⟩
    refine ⟨front, back, rfl, ⟨hpath, hsuffix⟩, ?_⟩
    rintro before earlier after rfl hearlier
    have hmem : earlier ∈ Arguments.positional driver.valueFlags (before ++ earlier :: after) :=
      Arguments.mem_positional_iff.2 ⟨before, after, rfl, hearlier.positional⟩
    exact absurd hearlier.suffix (Bool.eq_false_iff.1 (hfirst earlier hmem))
  · rintro ⟨front, back, rfl, hpath, hfirst⟩
    refine ⟨front, back, rfl, hpath.positional, hpath.suffix, fun earlier hmem => ?_⟩
    obtain ⟨before, after, hsplit, hearlier⟩ := Arguments.mem_positional_iff.1 hmem
    exact Bool.eq_false_iff.2 fun hsuffix =>
      hfirst before earlier after hsplit ⟨hearlier, hsuffix⟩

theorem inputPath_eq_none_iff {args : List String} :
    driver.inputPath args = none ↔
      ∀ front arg back, args = front ++ arg :: back → ¬driver.IsSource front arg := by
  rw [inputPath, List.find?_eq_none]
  constructor
  · rintro hnone front arg back rfl harg
    exact hnone arg (Arguments.mem_positional_iff.2 ⟨front, back, rfl, harg.positional⟩) harg.suffix
  · intro hnone arg hmem hsuffix
    obtain ⟨front, back, hsplit, harg⟩ := Arguments.mem_positional_iff.1 hmem
    exact hnone front arg back hsplit ⟨harg, hsuffix⟩

/-- Let `a` leave no value pending. A flag with its value, or a flag that takes none, can be put
behind `a` without a change to the input. And the input is the first argument that is neither a flag
nor the value of one and has the suffix of a source; there is no input if there is no such
argument. -/
theorem inputPath_insert (ha : pendingAfter driver.valueFlags false a = false) (b : List String)
    (call : Invocation) (state : DiscoveryState) (jobs : List Command) :
    let input args := (Command.driver driver { call with args := args } state jobs).inputPath
    (∀ flag ∈ driver.valueFlags, ∀ value, input (a ++ flag :: value :: b) = input (a ++ b)) ∧
    (∀ flag, Text.begins "-" flag = true → flag ≠ "-" → flag ∉ driver.valueFlags →
      input (a ++ flag :: b) = input (a ++ b)) ∧
    (∀ path, input (a ++ b) = some path ↔
      ∃ front back, a ++ b = front ++ path :: back ∧ driver.IsSource front path ∧
        ∀ before earlier after, front = before ++ earlier :: after →
          ¬driver.IsSource before earlier) ∧
    (input (a ++ b) = none ↔
      ∀ front arg back, a ++ b = front ++ arg :: back → ¬driver.IsSource front arg) := by
  intro input
  refine ⟨?_, ?_, ?_, ?_⟩
  · intro flag hf value
    exact inputPath_insert_pair ha hf value b
  · intro flag hbegins hmarker hv
    have hflag : Arguments.isFlag flag = true := by
      simp [Arguments.isFlag, hbegins, stdoutMarker, hmarker]
    exact inputPath_insert_flag ha hv hflag b
  · intro path
    exact inputPath_eq_some_iff
  · exact inputPath_eq_none_iff

/-- A value that looks like a source, and a flag that ends like one, before the input. -/
theorem inputPath_insert_misleading :
    let a := ["-I", "inc.c"]
    let b := ["-o", "out.c", "main.c", "other.c"]
    let call : Invocation :=
      { rawLine := "", executable := "clang", args := [], workingDir := Path.ofString "/work" }
    let input args := (Command.driver .clang { call with args := args } {} []).inputPath
    pendingAfter clang.valueFlags false a = false ∧
      input (a ++ "-Xlinker" :: "lib.c" :: b) = input (a ++ b) ∧
      input (a ++ "-fplugin=x.c" :: b) = input (a ++ b) ∧
      input (a ++ b) = some "main.c" := by
  intro a b call input
  have ha : pendingAfter clang.valueFlags false a = false := by decide
  obtain ⟨hpair, hflag, -, -⟩ := inputPath_insert ha b call {} []
  refine ⟨ha, hpair "-Xlinker" (by decide) "lib.c", ?_, by decide +kernel⟩
  exact hflag "-fplugin=x.c" (by decide +kernel) (by decide) (by decide)

end CompilerCommands.Driver
