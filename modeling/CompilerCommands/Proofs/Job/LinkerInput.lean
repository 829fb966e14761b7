import CompilerCommands.Command.Basic

/-!
# The input of a linker

A linker reads the objects of a build together with those of the runtime, which are named by
absolute paths. Its input is the first object whose path does not begin with a slash, or else the
first object. A drive before the slash is not seen: an object on a drive is taken for one of the
build.
-/

namespace CompilerCommands.Tool

variable {path : String} {objects : List String}

/-! ## Absolute paths -/

def isSlash (c : Char) : Bool := c = '/' || c = '\\'

def beginsWithSlash (path : String) : Bool := path.toList.head?.any isSlash

/-- Begins with a drive letter, a colon and a slash. -/
def isOnDrive (path : String) : Bool :=
  match path.toList with
  | letter :: ':' :: c :: _ => letter.isAlpha && isSlash c
  | _ => false

/-- Is absolute in the spelling of either system. -/
def isAbsolutePath (path : String) : Bool := beginsWithSlash path || isOnDrive path

/-- The first object that is not absolute, or else the first one. -/
def buildObject? (objects : List String) : Option String :=
  (objects.find? (!isAbsolutePath ·)).or objects.head?

theorem isRooted_eq_beginsWithSlash (path : String) : isRooted path = beginsWithSlash path := by
  rw [isRooted, beginsWithSlash, Text.begins, slashed, String.toList_ofList]
  cases path.toList with
  | nil => rfl
  | cons c rest =>
    by_cases hc : c = '\\'
    · simp [hc, isSlash]
    · simp [hc, isSlash, List.isPrefixOf, Bool.beq_eq_decide_eq, eq_comm]

theorem isAbsolutePath_of_beginsWithSlash (h : beginsWithSlash path = true) :
    isAbsolutePath path = true := by
  simp [isAbsolutePath, h]

theorem isAbsolutePath_of_isOnDrive (h : isOnDrive path = true) : isAbsolutePath path = true := by
  simp [isAbsolutePath, h]

/-! ## The object that is taken -/

theorem linkerInput_eq (args : List String) :
    linkerInput args =
      ((candidates args).find? (!beginsWithSlash ·)).or (candidates args).head? := by
  simp only [linkerInput, isRooted_eq_beginsWithSlash]
  cases (candidates args).find? (!beginsWithSlash ·) <;> rfl

theorem find?_or_head?_eq_none_iff (p : String → Bool) :
    (objects.find? p).or objects.head? = none ↔ objects = [] := by
  rw [Option.or_eq_none_iff, List.head?_eq_none_iff, and_iff_right_of_imp]
  rintro rfl
  rfl

theorem find?_or_head?_eq_some_iff (p : String → Bool) :
    (objects.find? p).or objects.head? = some path ↔
      (∃ front back, objects = front ++ path :: back ∧ p path = true ∧
        ∀ earlier ∈ front, p earlier = false) ∨
      (∀ object ∈ objects, p object = false) ∧ objects.head? = some path := by
  rw [Option.or_eq_some_iff, List.find?_eq_some_iff_append, List.find?_eq_none]
  simp only [Bool.not_eq_true, Bool.not_eq_true']
  refine or_congr ⟨?_, ?_⟩ Iff.rfl
  · rintro ⟨hpath, front, back, hobjects, hfront⟩
    exact ⟨front, back, hobjects, hpath, hfront⟩
  · rintro ⟨front, back, hobjects, hpath, hfront⟩
    exact ⟨hpath, front, back, hobjects, hfront⟩

/-! ## Drives -/

theorem buildObject?_of_all (h : ∀ object ∈ objects, beginsWithSlash object = true) :
    buildObject? objects = objects.head? := by
  have hnone : objects.find? (!isAbsolutePath ·) = none := by
    rw [List.find?_eq_none]
    intro object hobject
    simp [isAbsolutePath_of_beginsWithSlash (h object hobject)]
  rw [buildObject?, hnone, Option.none_or]

theorem buildObject?_of_not_isOnDrive (h : objects.find? (!beginsWithSlash ·) = some path)
    (hdrive : isOnDrive path = false) : buildObject? objects = some path := by
  obtain ⟨hpath, front, back, hobjects, hfront⟩ := List.find?_eq_some_iff_append.1 h
  refine (find?_or_head?_eq_some_iff _).2 (.inl ⟨front, back, hobjects, ?_, fun earlier hmem => ?_⟩)
  · simpa [isAbsolutePath, hdrive] using hpath
  · have hslash : beginsWithSlash earlier = true := by simpa using hfront earlier hmem
    simp [isAbsolutePath_of_beginsWithSlash hslash]

/-- An object on a drive is rightly taken only where it is the first and all are absolute. -/
theorem buildObject?_eq_some_iff_of_isOnDrive (hdrive : isOnDrive path = true) :
    buildObject? objects = some path ↔
      objects.head? = some path ∧ ∀ object ∈ objects, isAbsolutePath object = true := by
  rw [buildObject?, find?_or_head?_eq_some_iff, and_comm]
  simp [isAbsolutePath_of_isOnDrive hdrive]

/-- The objects of the build are seen unless the first object without a slash in front is on a
drive. -/
theorem find?_or_head?_eq_buildObject?_iff (objects : List String) :
    (objects.find? (!beginsWithSlash ·)).or objects.head? = buildObject? objects ↔
      ∀ path, objects.find? (!beginsWithSlash ·) = some path → isOnDrive path = true →
        objects.head? = some path ∧ ∀ object ∈ objects, isAbsolutePath object = true := by
  cases hfound : objects.find? (!beginsWithSlash ·) with
  | none =>
    have hall : ∀ object ∈ objects, beginsWithSlash object = true := by simpa using hfound
    simp [buildObject?_of_all hall]
  | some path =>
    rw [Option.some_or, eq_comm]
    cases hdrive : isOnDrive path with
    | false => simp [buildObject?_of_not_isOnDrive hfound hdrive, hdrive]
    | true => simp [buildObject?_eq_some_iff_of_isOnDrive hdrive, hdrive]

/-! ## Main result -/

/-- The objects of a linker are its positional arguments with the suffix of a file that a build
makes. There is an input exactly if there are objects: the first that does not begin with a slash,
or the first one if all do. This is the first object that is not absolute, or else the first one,
exactly if no object on a drive is taken for one of the build: the object without a slash in front
is not on a drive, or it is the first object and all are absolute. -/
theorem inputPath_linker_iff (call : Invocation) (args : List String) :
    let objects :=
      (Arguments.positional jobValueFlags args).filter (hasSuffix · intermediateSuffixes)
    let input := (Command.job .linker { call with args := args }).inputPath
    (input = none ↔ objects = []) ∧
    (∀ path, input = some path ↔
      (∃ front back, objects = front ++ path :: back ∧ beginsWithSlash path = false ∧
        ∀ earlier ∈ front, beginsWithSlash earlier = true) ∨
      (∀ object ∈ objects, beginsWithSlash object = true) ∧ objects.head? = some path) ∧
    (input = buildObject? objects ↔
      ∀ path, objects.find? (!beginsWithSlash ·) = some path → isOnDrive path = true →
        objects.head? = some path ∧ ∀ object ∈ objects, isAbsolutePath object = true) := by
  intro objects input
  have hinput : input = (objects.find? (!beginsWithSlash ·)).or objects.head? :=
    linkerInput_eq args
  rw [hinput]
  refine ⟨find?_or_head?_eq_none_iff _, fun path => ?_, find?_or_head?_eq_buildObject?_iff objects⟩
  have htaken : (objects.find? (!beginsWithSlash ·)).or objects.head? = some path ↔ _ :=
    find?_or_head?_eq_some_iff (!beginsWithSlash ·)
  simpa using htaken

/-- An object of the runtime on a drive is taken instead of the object of the build. -/
theorem inputPath_linker_drive :
    let args := ["C:/mingw/lib/crt2.o", "main.o"]
    let objects :=
      (Arguments.positional jobValueFlags args).filter (hasSuffix · intermediateSuffixes)
    let call : Invocation :=
      { rawLine := "ld C:/mingw/lib/crt2.o main.o", executable := "ld", args := args,
        workingDir := Path.ofString "/work" }
    objects = args ∧ objects.map isAbsolutePath = [true, false] ∧
      buildObject? objects = some "main.o" ∧
      (Command.job .linker call).inputPath = some "C:/mingw/lib/crt2.o" := by
  decide +kernel

end CompilerCommands.Tool
