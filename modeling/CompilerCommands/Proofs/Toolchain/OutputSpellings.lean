import CompilerCommands.Proofs.Toolchain.DriverOutput

/-!
# The spellings of an output

The output of clang can be named behind `-o` or `--output`, by the next argument or in the same one.
Where no other argument is about the output, all spellings name the same path, and none has a part
in the input, whatever the path looks like.
-/

namespace CompilerCommands.Driver

open Arguments (pendingAfter separateValue? assigned? joinedPath? flagValue? isFlag isOtherOFlag)

variable {driver : Driver} {a b : List String} {arg flag path : String}

/-! ## Arguments that name no output -/

/-- Neither is an output flag of clang nor begins like one with its path. -/
structure NamesNone (arg : String) : Prop where
  flag : arg ∉ clang.outputFlags
  joined : Text.begins "-o" arg = false
  assigned : Text.begins "--output=" arg = false

theorem NamesNone.namesOutput (h : NamesNone arg) : clang.namesOutput arg = false := by
  have hequals : Text.begins "-o=" arg = false :=
    Bool.eq_false_iff.2 fun hbegins =>
      Bool.eq_false_iff.1 h.joined (Text.begins_trans (by decide) hbegins)
  have hassigned : assigned? clang.outputFlags arg = none := by
    simp [assigned?, outputFlags, Text.after?, hequals, h.assigned]
  have hjoined : joinedPath? arg = none := by simp [joinedPath?, Text.after?, h.joined]
  simp [Driver.namesOutput, h.flag, hassigned, hjoined]

theorem flagValue?_append_of_not_namesOutput (ha : ∀ arg ∈ a, driver.namesOutput arg = false)
    (args : List String) :
    flagValue? (a ++ args) driver.outputFlags driver.joinsOutput =
      flagValue? args driver.outputFlags driver.joinsOutput := by
  induction a with
  | nil => rfl
  | cons arg rest ih =>
    rw [List.cons_append, flagValue?_cons_of_not_namesOutput (ha arg List.mem_cons_self),
      ih fun other hother => ha other (List.mem_cons_of_mem _ hother)]

theorem separateValue?_eq_none_of_not_namesOutput
    (ha : ∀ arg ∈ a, driver.namesOutput arg = false) :
    separateValue? driver.outputFlags a = none := by
  induction a with
  | nil => rfl
  | cons arg rest ih =>
    rw [separateValue?_cons_of_not_namesOutput (ha arg List.mem_cons_self),
      ih fun other hother => ha other (List.mem_cons_of_mem _ hother)]

/-! ## A flag and its path in one argument -/

structure Joinable (path : String) : Prop where
  nonempty : path ≠ ""
  equals : Text.begins "=" path = false
  other : isOtherOFlag ("-o" ++ path) = false

theorem assigned?_assigned (path : String) :
    assigned? clang.outputFlags ("--output=" ++ path) = some path := by
  have hother : Text.begins "-o=" ("--output=" ++ path) = false := by
    simp [Text.begins, List.isPrefixOf]
  have hflag : "--output" ++ "=" = "--output=" := by decide
  simp [assigned?, outputFlags, Text.after?, hother, hflag]

theorem assigned?_joined (h : Text.begins "=" path = false) :
    assigned? clang.outputFlags ("-o" ++ path) = none := by
  have hequals : Text.begins "-o=" ("-o" ++ path) = Text.begins "=" path := by simp [Text.begins]
  have hother : Text.begins "--output=" ("-o" ++ path) = false := by
    simp [Text.begins, List.isPrefixOf]
  simp [assigned?, outputFlags, Text.after?, hequals, hother, h]

theorem assigned_not_mem_valueFlags (path : String) : "--output=" ++ path ∉ clang.valueFlags := by
  have hnone : ∀ flag ∈ clang.valueFlags, Text.begins "--output=" flag = false := by decide
  intro hmem
  simpa using hnone _ hmem

theorem joined_not_mem_valueFlags (h : path ≠ "") : "-o" ++ path ∉ clang.valueFlags := by
  have honly : ∀ flag ∈ clang.valueFlags, Text.begins "-o" flag = true → flag = "-o" := by decide
  intro hmem
  exact h (by simpa using honly _ hmem (Text.begins_append _ _))

theorem mem_valueFlags_of_mem_outputFlags (hf : flag ∈ driver.outputFlags) :
    flag ∈ driver.valueFlags := by
  have hall : ∀ driver : Driver, ∀ flag ∈ driver.outputFlags, flag ∈ driver.valueFlags := by
    rintro (_ | _) <;> decide
  exact hall driver flag hf

theorem isFlag_append (h : isFlag flag = true) (rest : String) : isFlag (flag ++ rest) = true := by
  simp only [isFlag, stdoutMarker, Bool.and_eq_true, bne_iff_ne] at h ⊢
  obtain ⟨hbegins, hne⟩ := h
  refine ⟨Text.begins_trans hbegins (Text.begins_append flag rest), fun hsame => hne ?_⟩
  obtain ⟨tail, rfl⟩ := Text.begins_iff.1 hbegins
  have hempty : tail = "" ∧ rest = "" := by
    simpa [String.append_assoc] using hsame
  rw [hempty.1, String.append_empty]

/-! ## One spelling -/

/-- The ways to name `path` as the output of clang. -/
inductive Spells (path : String) : List String → Prop
  | apart {flag : String} (h : flag ∈ clang.outputFlags) : Spells path [flag, path]
  | assigned : Spells path ["--output=" ++ path]
  | joined (h : Joinable path) : Spells path ["-o" ++ path]

variable {spelling : List String}

theorem spells_of_mem (hpath : Joinable path)
    (h : spelling ∈ [["-o", path], ["-o" ++ path], ["--output", path], ["--output=" ++ path]]) :
    Spells path spelling := by
  simp only [List.mem_cons, List.not_mem_nil, or_false] at h
  obtain rfl | rfl | rfl | rfl := h
  · exact .apart (by decide)
  · exact .joined hpath
  · exact .apart (by decide)
  · exact .assigned

/-- The path is found, a joined one only if no argument behind it names another. -/
theorem Spells.flagValue? (h : Spells path spelling)
    (hb : ∀ arg ∈ b, clang.namesOutput arg = false) :
    flagValue? (spelling ++ b) clang.outputFlags clang.joinsOutput = some path := by
  cases h with
  | apart hf => simp [Arguments.flagValue?, separateValue?, hf]
  | assigned =>
    have hmem : "--output=" ++ path ∉ clang.outputFlags := fun hflag =>
      assigned_not_mem_valueFlags path (mem_valueFlags_of_mem_outputFlags hflag)
    rw [List.singleton_append, flagValue?_outputFlags,
      Arguments.separateValue?_cons_of_not_mem hmem, assigned?_assigned]
    rfl
  | joined hpath =>
    have hmem : "-o" ++ path ∉ clang.outputFlags := fun hflag =>
      joined_not_mem_valueFlags hpath.nonempty (mem_valueFlags_of_mem_outputFlags hflag)
    have hjoined : joinedPath? ("-o" ++ path) = some path := by
      simp [joinedPath?, hpath.nonempty, hpath.other]
    rw [List.singleton_append, flagValue?_outputFlags,
      Arguments.separateValue?_cons_of_not_mem hmem, assigned?_joined hpath.equals,
      separateValue?_eq_none_of_not_namesOutput hb, List.findSome?_cons, hjoined]
    rfl

theorem Spells.inputPath (h : Spells path spelling)
    (ha : pendingAfter clang.valueFlags false a = false) (b : List String) :
    clang.inputPath (a ++ (spelling ++ b)) = clang.inputPath (a ++ b) := by
  cases h with
  | apart hf => exact inputPath_insert_pair ha (mem_valueFlags_of_mem_outputFlags hf) path b
  | assigned =>
    exact inputPath_insert_flag ha (assigned_not_mem_valueFlags path)
      (isFlag_append (by decide) path) b
  | joined hpath =>
    exact inputPath_insert_flag ha (joined_not_mem_valueFlags hpath.nonempty)
      (isFlag_append (by decide) path) b

/-! ## Main result -/

/-- Let no argument in `a` and `b` be about the output, and `a` leave no value pending. Then all
spellings of an output between them name its path, and the input is that of the other arguments. -/
theorem paths_output_spellings (hplain : ∀ arg ∈ a ++ b, NamesNone arg)
    (ha : pendingAfter clang.valueFlags false a = false) (hpath : Joinable path)
    (call : Invocation) (state : DiscoveryState) (jobs : List Command) :
    let command args := Command.driver .clang { call with args := args } state jobs
    ∀ spelling ∈ [["-o", path], ["-o" ++ path], ["--output", path], ["--output=" ++ path]],
      (command (a ++ spelling ++ b)).outputPath = some path ∧
        (command (a ++ spelling ++ b)).inputPath = (command (a ++ b)).inputPath := by
  intro command spelling hspelling
  have hspells : Spells path spelling := spells_of_mem hpath hspelling
  have hbefore : ∀ arg ∈ a, clang.namesOutput arg = false := fun arg hmem =>
    (hplain arg (List.mem_append_left b hmem)).namesOutput
  have hbehind : ∀ arg ∈ b, clang.namesOutput arg = false := fun arg hmem =>
    (hplain arg (List.mem_append_right a hmem)).namesOutput
  rw [List.append_assoc]
  refine ⟨congrArg some (outputPath_of_flagValue? ?_), hspells.inputPath ha b⟩
  rw [flagValue?_append_of_not_namesOutput hbefore]
  exact hspells.flagValue? hbehind

/-- A path that looks like a flag and like a source, behind a source that is the value of a flag. -/
theorem paths_output_spellings_misleading :
    let a := ["-I", "inc.c", "-c"]
    let b := ["main.c", "-Xlinker"]
    let path := "-c.c"
    let call : Invocation :=
      { rawLine := "", executable := "clang", args := [], workingDir := Path.ofString "/work" }
    let command args := Command.driver .clang { call with args := args } {} []
    (∀ arg ∈ a ++ b, NamesNone arg) ∧ pendingAfter clang.valueFlags false a = false ∧
      Joinable path ∧ (command (a ++ b)).inputPath = some "main.c" ∧
      (command (a ++ ["-o" ++ path] ++ b)).outputPath = some path ∧
      (command (a ++ ["-o" ++ path] ++ b)).inputPath = (command (a ++ b)).inputPath := by
  intro a b path call command
  have hplain : ∀ arg ∈ a ++ b, NamesNone arg := by
    have hall : ∀ arg ∈ a ++ b, arg ∉ clang.outputFlags ∧ Text.begins "-o" arg = false ∧
        Text.begins "--output=" arg = false := by decide
    exact fun arg hmem => ⟨(hall arg hmem).1, (hall arg hmem).2.1, (hall arg hmem).2.2⟩
  have ha : pendingAfter clang.valueFlags false a = false := by decide
  have hpath : Joinable path := ⟨by decide, by decide, by decide⟩
  have hspelled := paths_output_spellings hplain ha hpath call {} [] ["-o" ++ path] (by simp)
  exact ⟨hplain, ha, hpath, by decide +kernel, hspelled⟩

end CompilerCommands.Driver
