import CompilerCommands.DryRun.Listing
import CompilerCommands.Proofs.Shell.Spelling

/-!
# Lines with a mark

Both drivers put a mark before a job, and pass over some texts that stand after it. White space at
the end of a line is no part of the job.
-/

namespace CompilerCommands

/-! ## Variables -/

/-- Letters, digits and underscores, a digit not being the first. -/
def IsVariableName : List Char → Prop
  | [] => False
  | first :: rest =>
    (first.isAlpha = true ∨ first = '_') ∧ ∀ c ∈ rest, c.isAlphanum = true ∨ c = '_'

def SetsVariable (text : String) : Prop :=
  ∃ name value, IsVariableName name ∧ text.toList = name ++ '=' :: value

theorem not_mem_of_isVariableName {name : List Char} (h : IsVariableName name) : '=' ∉ name := by
  intro hm
  cases name with
  | nil => exact h
  | cons first rest =>
    rcases List.mem_cons.1 hm with rfl | hm
    · rcases h.1 with h | h <;> exact absurd h (by decide)
    · rcases h.2 _ hm with h | h <;> exact absurd h (by decide)

theorem isAssignment_iff {text : String} : isAssignment text = true ↔ SetsVariable text := by
  constructor
  · intro h
    unfold isAssignment at h
    split at h
    · next first rest value hcut =>
      have happ := Text.append_cut '=' text.toList
      rw [hcut] at happ
      refine ⟨first :: rest, value, ?_, happ.symm⟩
      simpa [IsVariableName] using h
    · cases h
  · rintro ⟨name, value, hname, ht⟩
    unfold isAssignment
    rw [ht, Text.cut_append_cons (not_mem_of_isVariableName hname)]
    cases name with
    | nil => exact hname.elim
    | cons first rest => simpa [IsVariableName] using hname

/-! ## Lines that show a job -/

namespace Driver

/-- What stands before a job. -/
def jobMark : Driver → String
  | .clang => " "
  | .nvcc => "#$ "

/-- What stands after the mark of a job without being one. -/
def passesOver : Driver → String → Bool
  | .clang, text => text == "(in-process)"
  | .nvcc, text => isAssignment text

/-- The job in what follows its mark. -/
def jobIn? (driver : Driver) (rest : String) : Option String :=
  let job := Text.strip rest
  if job.isEmpty || driver.passesOver job then none else some job

variable {driver : Driver}

theorem jobIn?_of_strip_eq {a b : String} (h : Text.strip a = Text.strip b) :
    driver.jobIn? a = driver.jobIn? b := by
  unfold jobIn?
  rw [h]

theorem jobIn?_of_blank {rest : String} (h : ∀ c ∈ rest.toList, Text.isBlank c = true) :
    driver.jobIn? rest = none := by
  have hstrip := Text.strip_append_of_blank "" h
  rw [String.empty_append] at hstrip
  rw [jobIn?_of_strip_eq hstrip]
  rfl

theorem strip_clang_mark (rest : String) : Text.strip (" " ++ rest) = Text.strip rest := by
  have htrim :
      Text.trim Text.isBlank (' ' :: rest.toList) = Text.trim Text.isBlank rest.toList := by
    rw [Text.trim, List.dropWhile_cons_of_pos (by decide), ← Text.trim]
  rw [Text.strip, String.toList_append]
  exact congrArg String.ofList htrim

end Driver

theorem jobText?_eq_bind (driver : Driver) (line : String) :
    (Toolchain.driver driver).jobText? line =
      (Text.after? driver.jobMark line).bind driver.jobIn? := by
  cases hafter : Text.after? driver.jobMark line with
  | some rest =>
    cases driver with
    | clang =>
      obtain rfl := Text.after?_eq_some_iff.1 hafter
      simp only [Toolchain.jobText?, Driver.jobMark, Text.begins_append, Driver.strip_clang_mark,
        Option.bind_some, Driver.jobIn?, Driver.passesOver, Bool.not_true, Bool.false_or]
      congr
    | nvcc =>
      rw [Driver.jobMark] at hafter
      simp only [Toolchain.jobText?, hafter, Option.bind_some, Driver.jobIn?, Driver.passesOver]
      congr
  | none =>
    cases driver with
    | clang =>
      have hbegins : Text.begins " " line = false := by
        rw [← Bool.not_eq_true, Text.begins_iff]
        rintro ⟨rest, rfl⟩
        rw [Driver.jobMark, Text.after?_append] at hafter
        cases hafter
      simp only [Toolchain.jobText?, hbegins]
      rfl
    | nvcc =>
      rw [Driver.jobMark] at hafter
      simp only [Toolchain.jobText?, hafter]
      rfl

/-- A text that begins and ends as written words do is the job after a mark, unless it sets a
variable. -/
theorem jobText?_mark {driver : Driver} {text : String} (h : Shell.Edged text.toList)
    (hset : driver = .nvcc → ¬ SetsVariable text) :
    (Toolchain.driver driver).jobText? (driver.jobMark ++ text) = some text := by
  have hne : text.isEmpty = false := by
    rw [← Bool.not_eq_true, String.isEmpty_iff]
    rintro rfl
    exact h.ne_nil rfl
  have hpass : driver.passesOver text = false := by
    cases driver with
    | clang =>
      rw [Driver.passesOver, beq_eq_false_iff_ne]
      rintro rfl
      obtain ⟨c, hc, he⟩ := h.head
      obtain rfl : '(' = c := Option.some.inj hc
      exact absurd he (by decide)
    | nvcc =>
      rw [Driver.passesOver, ← Bool.not_eq_true, isAssignment_iff]
      exact hset rfl
  rw [jobText?_eq_bind, Text.after?_append, Option.bind_some, Driver.jobIn?,
    Text.strip_of_trimmed h.trimmed, hne, hpass]
  rfl

theorem jobText?_dropEndWhile (driver : Driver) (line : List Char) :
    (Toolchain.driver driver).jobText? (String.ofList (Text.dropEndWhile Text.isBlank line)) =
      (Toolchain.driver driver).jobText? (String.ofList line) := by
  obtain ⟨blanks, hline, hblanks⟩ := Text.exists_eq_dropEndWhile_append Text.isBlank line
  generalize Text.dropEndWhile Text.isBlank line = kept at hline ⊢
  subst hline
  rw [jobText?_eq_bind, jobText?_eq_bind, String.ofList_append]
  cases hkept : Text.after? driver.jobMark (String.ofList kept) with
  | some rest =>
    simp only [Text.after?_eq_some_iff.1 hkept, String.append_assoc, Text.after?_append,
      Option.bind_some]
    refine Driver.jobIn?_of_strip_eq (Text.strip_append_of_blank rest ?_).symm
    simpa using hblanks
  | none =>
    cases hall : Text.after? driver.jobMark (String.ofList kept ++ String.ofList blanks) with
    | none => rfl
    | some rest =>
      have hcs : kept ++ blanks = driver.jobMark.toList ++ rest.toList := by
        simpa using congrArg String.toList (Text.after?_eq_some_iff.1 hall)
      rcases List.append_eq_append_iff.1 hcs with ⟨a, -, hb⟩ | ⟨a, hk, -⟩
      · -- the mark ends in the white space, so nothing but white space follows it
        have hrest : ∀ c ∈ rest.toList, Text.isBlank c = true := by
          intro c hc
          refine hblanks c ?_
          rw [hb]
          exact List.mem_append_right a hc
        rw [Option.bind_none, Option.bind_some, Driver.jobIn?_of_blank hrest]
      · rw [hk, String.ofList_append, String.ofList_toList, Text.after?_append] at hkept
        cases hkept

/-! ## Other lines -/

/-- What a driver prints besides its jobs. -/
def Driver.IsNoise : Driver → String → Prop
  | .clang, text =>
    (∀ rest, text ≠ " " ++ rest) ∨ Text.strip text = "" ∨ Text.strip text = "(in-process)"
  | .nvcc, text =>
    (∀ rest, text ≠ "#$ " ++ rest) ∨ ∃ rest, text = "#$ " ++ rest ∧ SetsVariable (Text.strip rest)

theorem after?_eq_none {start s : String} (h : ∀ rest, s ≠ start ++ rest) :
    Text.after? start s = none := by
  cases hafter : Text.after? start s with
  | none => rfl
  | some rest => exact absurd (Text.after?_eq_some_iff.1 hafter) (h rest)

theorem jobText?_noise {driver : Driver} {text : String} (h : driver.IsNoise text) :
    (Toolchain.driver driver).jobText? text = none := by
  rw [jobText?_eq_bind]
  cases driver with
  | clang =>
    rcases h with h | h
    · rw [Driver.jobMark, after?_eq_none h]
      rfl
    · cases hafter : Text.after? Driver.clang.jobMark text with
      | none => rfl
      | some rest =>
        obtain rfl := Text.after?_eq_some_iff.1 hafter
        rw [Driver.jobMark, Driver.strip_clang_mark] at h
        rw [Option.bind_some, Driver.jobIn?]
        rcases h with h | h <;> rw [h] <;> rfl
  | nvcc =>
    rcases h with h | ⟨rest, rfl, hset⟩
    · rw [Driver.jobMark, after?_eq_none h]
      rfl
    · rw [Driver.jobMark, Text.after?_append, Option.bind_some, Driver.jobIn?, Driver.passesOver,
        isAssignment_iff.2 hset, Bool.or_true]
      rfl

end CompilerCommands
