import CompilerCommands.Proofs.Arguments.FlagValues
import CompilerCommands.Proofs.Toolchain.DriverInput

/-!
# The output of a driver

The output, other than the input, is looked for among all arguments, the values of flags included. A
value that looks like an argument about the output is read as one (`asksOutput`). A value that is an
output flag takes the argument behind it as its path, also if that is the next flag (`awaitsPath`).
Apart from these, flags with their values have no part in the output.
-/

namespace CompilerCommands.Driver

open Arguments (pendingAfter separateValue? assigned? joinedPath? flagValue? endsInFlag)

/-! ## Arguments about the output -/

/-- Is read as an output flag, with or without its path. -/
def namesOutput (driver : Driver) (arg : String) : Bool :=
  driver.outputFlags.contains arg || (assigned? driver.outputFlags arg).isSome ||
    driver.joinsOutput && (joinedPath? arg).isSome

/-- The flags that tell the output where no output flag does. -/
def kindFlags (driver : Driver) : List String :=
  "-E" :: (Toolchain.driver driver).outputKinds.map Prod.fst ++ ["-c", "--compile"]

/-- Is read as an argument about the output wherever it stands. -/
def asksOutput (driver : Driver) (arg : String) : Bool :=
  driver.namesOutput arg || driver.kindFlags.contains arg

/-- No output flag has a path yet, and the last argument is one: it takes the next for its path. -/
def awaitsPath (driver : Driver) (args : List String) : Bool :=
  (separateValue? driver.outputFlags args).isNone && endsInFlag driver.outputFlags args

variable {driver : Driver} {platform : Platform} {a args : List String} {flag value arg : String}

theorem not_namesOutput (h : driver.namesOutput arg = false) :
    arg ∉ driver.outputFlags ∧ assigned? driver.outputFlags arg = none ∧
      (driver.joinsOutput = true → joinedPath? arg = none) := by
  simpa [namesOutput, and_assoc] using h

theorem not_asksOutput (h : driver.asksOutput arg = false) :
    driver.namesOutput arg = false ∧ arg ∉ driver.kindFlags := by
  simpa [asksOutput] using h

theorem not_asksOutput_of_mem_valueFlags (hf : flag ∈ driver.valueFlags)
    (ho : flag ∉ driver.outputFlags) : driver.asksOutput flag = false := by
  have hall : ∀ driver : Driver, ∀ flag ∈ driver.valueFlags,
      flag ∉ driver.outputFlags → driver.asksOutput flag = false := by
    rintro (_ | _) <;> decide +kernel
  exact hall driver flag hf ho

/-! ## The path of an output flag -/

/-- The path that an output flag names: a separate one, or else a joined one. -/
theorem flagValue?_outputFlags (driver : Driver) (args : List String) :
    flagValue? args driver.outputFlags driver.joinsOutput =
      (separateValue? driver.outputFlags args).or
        (if driver.joinsOutput = true then args.findSome? joinedPath? else none) := by
  unfold flagValue?
  cases separateValue? driver.outputFlags args <;> cases driver <;> rfl

theorem separateValue?_cons_of_not_namesOutput (h : driver.namesOutput arg = false)
    (rest : List String) :
    separateValue? driver.outputFlags (arg :: rest) = separateValue? driver.outputFlags rest := by
  obtain ⟨hmem, hassigned, -⟩ := not_namesOutput h
  rw [Arguments.separateValue?_cons_of_not_mem hmem, hassigned, Option.none_or]

theorem flagValue?_cons_of_not_namesOutput (h : driver.namesOutput arg = false)
    (rest : List String) :
    flagValue? (arg :: rest) driver.outputFlags driver.joinsOutput =
      flagValue? rest driver.outputFlags driver.joinsOutput := by
  obtain ⟨-, -, hjoined⟩ := not_namesOutput h
  rw [flagValue?_outputFlags, flagValue?_outputFlags, separateValue?_cons_of_not_namesOutput h]
  congr 1
  split
  · next hjoins => rw [List.findSome?_cons, hjoined hjoins]
  · rfl

theorem outputPath_of_flagValue? {path : String}
    (h : flagValue? args driver.outputFlags driver.joinsOutput = some path) :
    driver.outputPath platform args = path := by
  rw [outputPath, h]

theorem outputPath_of_awaitsPath (h : driver.awaitsPath a = true) (b : List String) :
    driver.outputPath platform (a ++ arg :: b) = arg := by
  obtain ⟨hnone, hends⟩ : separateValue? driver.outputFlags a = none ∧
      endsInFlag driver.outputFlags a = true := by simpa [awaitsPath] using h
  refine outputPath_of_flagValue? ?_
  rw [flagValue?_outputFlags, Arguments.separateValue?_append, hnone, if_pos hends]
  rfl

/-! ## The output that goes without saying -/

theorem defaultOutput_congr {other : List String} (input : Option String)
    (h : ∀ flag ∈ driver.kindFlags, flag ∈ args ↔ flag ∈ other) :
    (Toolchain.driver driver).defaultOutput platform args input =
      (Toolchain.driver driver).defaultOutput platform other input := by
  cases driver <;>
    simp_all [kindFlags, Toolchain.outputKinds, Toolchain.defaultOutput, Toolchain.outputSuffix?,
      List.find?_cons]

/-! ## What is put between arguments -/

/-- A flag with its value changes nothing about the output if the value is not about the output and
no output flag takes the flag for its path. -/
theorem outputPath_insert (ha : pendingAfter driver.valueFlags false a = false)
    (hawaits : driver.awaitsPath a = false) (hf : flag ∈ driver.valueFlags)
    (ho : flag ∉ driver.outputFlags) (hv : driver.asksOutput value = false) (b : List String) :
    driver.outputPath platform (a ++ flag :: value :: b) =
      driver.outputPath platform (a ++ b) := by
  obtain ⟨hfnames, hfkind⟩ := not_asksOutput (not_asksOutput_of_mem_valueFlags hf ho)
  obtain ⟨hvnames, hvkind⟩ := not_asksOutput hv
  have hseparate : separateValue? driver.outputFlags (a ++ flag :: value :: b) =
      separateValue? driver.outputFlags (a ++ b) := by
    rw [Arguments.separateValue?_append, Arguments.separateValue?_append]
    cases hs : separateValue? driver.outputFlags a with
    | some path => rfl
    | none =>
      have hends : ¬endsInFlag driver.outputFlags a = true := by
        simpa [awaitsPath, hs] using hawaits
      rw [if_neg hends, if_neg hends, separateValue?_cons_of_not_namesOutput hfnames,
        separateValue?_cons_of_not_namesOutput hvnames]
  have hjoined (hjoins : driver.joinsOutput = true) :
      (a ++ flag :: value :: b).findSome? joinedPath? = (a ++ b).findSome? joinedPath? := by
    rw [List.findSome?_append, List.findSome?_append, List.findSome?_cons,
      (not_namesOutput hfnames).2.2 hjoins, List.findSome?_cons,
      (not_namesOutput hvnames).2.2 hjoins]
  have hkind : ∀ kind ∈ driver.kindFlags, kind ∈ a ++ flag :: value :: b ↔ kind ∈ a ++ b := by
    intro kind hk
    have hne : kind ≠ flag ∧ kind ≠ value := ⟨fun h => hfkind (h ▸ hk), fun h => hvkind (h ▸ hk)⟩
    simp [hne]
  have hnamed : flagValue? (a ++ flag :: value :: b) driver.outputFlags driver.joinsOutput =
      flagValue? (a ++ b) driver.outputFlags driver.joinsOutput := by
    rw [flagValue?_outputFlags, flagValue?_outputFlags, hseparate]
    congr 1
    split
    · next hjoins => exact hjoined hjoins
    · rfl
  rw [outputPath, outputPath, hnamed, inputPath_insert_pair ha hf, defaultOutput_congr _ hkind]

/-! ## Values that are read as something else -/

theorem flagValue?_of_namesOutput (h : driver.namesOutput value = true) :
    ∃ path, flagValue? [value, "-E"] driver.outputFlags driver.joinsOutput = some path ∧
      (path = "-E" ∨ flagValue? [value] driver.outputFlags driver.joinsOutput = some path) := by
  have hE : separateValue? driver.outputFlags ["-E"] = none := by cases driver <;> decide
  simp only [flagValue?_outputFlags]
  by_cases hmem : value ∈ driver.outputFlags
  · exact ⟨"-E", by simp [separateValue?, hmem], .inl rfl⟩
  rw [Arguments.separateValue?_cons_of_not_mem hmem, Arguments.separateValue?_cons_of_not_mem hmem,
    hE]
  cases hassigned : assigned? driver.outputFlags value with
  | some path => exact ⟨path, rfl, .inr rfl⟩
  | none =>
    obtain ⟨hjoins, hjoined⟩ : driver.joinsOutput = true ∧ (joinedPath? value).isSome = true := by
      simpa [namesOutput, hmem, hassigned] using h
    obtain ⟨path, hpath⟩ := Option.isSome_iff_exists.1 hjoined
    exact ⟨path, by simp [hjoins, hpath], .inr (by simp [separateValue?, hjoins, hpath])⟩

theorem executableName_ne_stdoutMarker (platform : Platform) :
    platform.executableName ≠ stdoutMarker := by
  cases platform <;> decide

theorem exists_outputPath_ne_of_namesOutput (platform : Platform)
    (hf : driver.namesOutput flag = false) (h : driver.namesOutput value = true) :
    ∃ b, driver.outputPath platform (flag :: value :: b) ≠ driver.outputPath platform b := by
  -- Were nothing changed, the path would be the marker before `-E` and the executable's name alone.
  refine Classical.not_forall.1 fun hsame => ?_
  obtain ⟨path, hpath, hshort⟩ := flagValue?_of_namesOutput h
  rw [← flagValue?_cons_of_not_namesOutput hf] at hpath hshort
  have hE : driver.outputPath platform ["-E"] = stdoutMarker := by
    cases driver <;> cases platform <;> decide +kernel
  have hnil : driver.outputPath platform [] = platform.executableName := by
    cases driver <;> cases platform <;> decide +kernel
  have hmarker : path = stdoutMarker := by
    have houtput : driver.outputPath platform [flag, value, "-E"] = path :=
      outputPath_of_flagValue? hpath
    rw [← houtput, hsame, hE]
  obtain rfl | hshort := hshort
  · exact absurd hmarker (by decide)
  · refine executableName_ne_stdoutMarker platform ?_
    rw [← hnil, ← hsame, outputPath_of_flagValue? hshort, hmarker]

theorem outputPath_ne_of_mem_kindFlags (hf : flag ∈ driver.valueFlags)
    (ho : flag ∉ driver.outputFlags) (hnames : driver.namesOutput value = false)
    (h : value ∈ driver.kindFlags) :
    driver.outputPath platform ["x.c", flag, value] ≠ driver.outputPath platform ["x.c"] := by
  obtain ⟨hfnames, hfkind⟩ := not_asksOutput (not_asksOutput_of_mem_valueFlags hf ho)
  have hsource : driver.namesOutput "x.c" = false := by cases driver <;> decide
  have hnone : flagValue? ["x.c", flag, value] driver.outputFlags driver.joinsOutput = none := by
    rw [flagValue?_cons_of_not_namesOutput hsource, flagValue?_cons_of_not_namesOutput hfnames,
      flagValue?_cons_of_not_namesOutput hnames]
    cases driver <;> rfl
  have hinput : driver.inputPath ["x.c", flag, value] = some "x.c" := by
    have hinsert := inputPath_insert_pair (a := ["x.c"]) (by cases driver <;> decide) hf value []
    refine hinsert.trans ?_
    cases driver <;> decide +kernel
  have hkind : ∀ kind ∈ driver.kindFlags, kind ∈ ["x.c", flag, value] ↔ kind ∈ ["x.c", value] := by
    intro kind hk
    have hne : kind ≠ flag := fun h => hfkind (h ▸ hk)
    simp [hne]
  have hdefault : ∀ value ∈ driver.kindFlags,
      (Toolchain.driver driver).defaultOutput platform ["x.c", value] (some "x.c") ≠
        driver.outputPath platform ["x.c"] := by
    cases driver <;> cases platform <;> decide +kernel
  rw [outputPath, hnone, hinput, defaultOutput_congr _ hkind]
  exact hdefault value h

theorem exists_outputPath_ne (hf : flag ∈ driver.valueFlags) (ho : flag ∉ driver.outputFlags)
    (h : driver.asksOutput value = true) :
    ∃ a b, pendingAfter driver.valueFlags false a = false ∧ driver.awaitsPath a = false ∧
      driver.outputPath platform (a ++ flag :: value :: b) ≠
        driver.outputPath platform (a ++ b) := by
  have hfnames := (not_asksOutput (not_asksOutput_of_mem_valueFlags hf ho)).1
  cases hnames : driver.namesOutput value with
  | true =>
    obtain ⟨b, hne⟩ := exists_outputPath_ne_of_namesOutput platform hfnames hnames
    exact ⟨[], b, rfl, rfl, hne⟩
  | false =>
    have hkind : value ∈ driver.kindFlags := by simpa [asksOutput, hnames] using h
    refine ⟨["x.c"], [], ?_, ?_, outputPath_ne_of_mem_kindFlags hf ho hnames hkind⟩
    · cases driver <;> decide
    · cases driver <;> decide

/-! ## Main result -/

/-- Let `flag` take a value that is not the output. On lines that leave no value pending behind `a`
and whose output flags have got their paths there, putting the flag with `value` behind `a` never
changes the output exactly if the value is not read as an argument about the output. And behind `a`,
no such value ever changes it exactly if no output flag in `a` still awaits its path; if one does,
the output is the flag that is put there. -/
theorem outputPath_insert_iff (platform : Platform) (hf : flag ∈ driver.valueFlags)
    (ho : flag ∉ driver.outputFlags) :
    (∀ value,
      (∀ a b, pendingAfter driver.valueFlags false a = false → driver.awaitsPath a = false →
        driver.outputPath platform (a ++ flag :: value :: b) =
          driver.outputPath platform (a ++ b)) ↔
      driver.asksOutput value = false) ∧
    (∀ a, pendingAfter driver.valueFlags false a = false →
      ((∀ value b, driver.asksOutput value = false →
        driver.outputPath platform (a ++ flag :: value :: b) =
          driver.outputPath platform (a ++ b)) ↔
      driver.awaitsPath a = false)) ∧
    ∀ a value b, driver.awaitsPath a = true →
      driver.outputPath platform (a ++ flag :: value :: b) = flag := by
  refine ⟨fun value => ⟨fun hsame => ?_, fun hv a b ha hawaits => ?_⟩,
    fun a ha => ⟨fun hsame => ?_, fun hawaits value b hv => ?_⟩, fun a value b hawaits => ?_⟩
  · refine Bool.eq_false_iff.2 fun hasks => ?_
    obtain ⟨a, b, ha, hawaits, hne⟩ := exists_outputPath_ne hf ho hasks
    exact hne (hsame a b ha hawaits)
  · exact outputPath_insert ha hawaits hf ho hv b
  · refine Bool.eq_false_iff.2 fun hawaits => ?_
    have hplain : driver.asksOutput "" = false := by cases driver <;> decide
    have hempty := hsame "" [""] hplain
    rw [outputPath_of_awaitsPath hawaits, outputPath_of_awaitsPath hawaits] at hempty
    have hnonempty : "" ∉ driver.valueFlags := by cases driver <;> decide
    exact hnonempty (hempty ▸ hf)
  · exact outputPath_insert ha hawaits hf ho hv b
  · exact outputPath_of_awaitsPath hawaits (value :: b)

/-- Options for the linker: one that looks like a source, one that is read as `-o` with the path
`rder`, and one behind an option that looks like an output flag. -/
theorem outputPath_insert_iff_linker :
    "-Xlinker" ∈ clang.valueFlags ∧ "-Xlinker" ∉ clang.outputFlags ∧
      clang.outputPath .linux (["-c", "-I", "inc.c"] ++ "-Xlinker" :: "lib.c" :: ["main.c"]) =
        clang.outputPath .linux (["-c", "-I", "inc.c"] ++ ["main.c"]) ∧
      ¬(∀ a b, pendingAfter clang.valueFlags false a = false → clang.awaitsPath a = false →
        clang.outputPath .linux (a ++ "-Xlinker" :: "-order" :: b) =
          clang.outputPath .linux (a ++ b)) ∧
      clang.outputPath .linux (["main.c", "-Xlinker", "-o"] ++ "-Xlinker" :: "out" :: []) =
        "-Xlinker" := by
  have hf : "-Xlinker" ∈ clang.valueFlags := by decide
  have ho : "-Xlinker" ∉ clang.outputFlags := by decide
  obtain ⟨hvalues, -, hawaiting⟩ := outputPath_insert_iff .linux hf ho
  refine ⟨hf, ho, ?_, ?_, hawaiting _ _ _ (by decide)⟩
  · exact (hvalues "lib.c").2 (by decide +kernel) _ _ (by decide) (by decide)
  · exact fun hsame => absurd ((hvalues "-order").1 hsame) (by decide +kernel)

/-- A value for the linker or for the host compiler is read as a flag of the driver, and a flag as
the path of an option for the linker. -/
theorem outputPath_value :
    pendingAfter clang.valueFlags false ["main.c"] = false ∧
      "-Xlinker" ∈ clang.valueFlags ∧ "-Xlinker" ∉ clang.outputFlags ∧
      clang.outputPath .linux (["main.c"] ++ "-Xlinker" :: "-E" :: []) = "-" ∧
      clang.outputPath .linux (["main.c"] ++ []) = "a.out" ∧
    pendingAfter nvcc.valueFlags false ["k.cu"] = false ∧
      "-Xcompiler" ∈ nvcc.valueFlags ∧ "-Xcompiler" ∉ nvcc.outputFlags ∧
      nvcc.outputPath .linux (["k.cu"] ++ "-Xcompiler" :: "-c" :: []) = "k.o" ∧
      nvcc.outputPath .linux (["k.cu"] ++ []) = "a.out" ∧
    pendingAfter clang.valueFlags false ["main.c", "-Xlinker", "-o"] = false ∧
      "-I" ∈ clang.valueFlags ∧ "-I" ∉ clang.outputFlags ∧
      clang.outputPath .linux (["main.c", "-Xlinker", "-o"] ++ "-I" :: "inc" :: []) = "-I" ∧
      clang.outputPath .linux (["main.c", "-Xlinker", "-o"] ++ []) = "a.out" := by
  decide +kernel

end CompilerCommands.Driver
