import CompilerCommands.Discovery.DryRun
import CompilerCommands.Proofs.DryRun.JobText
import CompilerCommands.Proofs.Execution.InTime
import CompilerCommands.Proofs.Text.Utf8

/-!
# Jobs that a driver prints

A driver prints a line for each job, with other lines between them. Whatever the jobs' words are,
the jobs are read back in order, from the text and from a dry run that prints it.
-/

namespace CompilerCommands

open Shell (SpelledWord)

/-! ## Printed lines -/

/-- A line that a driver prints. -/
inductive PrintedLine where
  | job (executable : SpelledWord) (args : List SpelledWord)
  | noise (text : String)
  deriving DecidableEq, Repr

namespace PrintedLine

def text (driver : Driver) : PrintedLine → String
  | job executable args =>
    driver.jobMark ++ String.ofList (SpelledWord.line (executable :: args))
  | noise text => text

def output (driver : Driver) (lines : List PrintedLine) : String :=
  "\n".intercalate (lines.map (text driver))

def job? : PrintedLine → Option Job
  | job executable args => some ⟨executable.word, args.map (·.word)⟩
  | noise _ => none

/-- Is one line, and is what it says it is. -/
def Fits (driver : Driver) : PrintedLine → Prop
  | job executable args =>
    (∀ w ∈ executable :: args, Text.IsLine w.word.toList) ∧
      (driver = .nvcc → ¬ SetsVariable (String.ofList (SpelledWord.line (executable :: args))))
  | noise text => Text.IsLine text.toList ∧ driver.IsNoise text

variable {driver : Driver} {line : PrintedLine}

theorem Fits.isLine (h : line.Fits driver) : Text.IsLine (line.text driver).toList := by
  cases line with
  | job executable args =>
    intro c hc
    rw [text, String.toList_append, String.toList_ofList] at hc
    rcases List.mem_append.1 hc with hc | hc
    · have hmark : Text.IsLine driver.jobMark.toList := by cases driver <;> decide
      exact hmark c hc
    · exact SpelledWord.isLine_line h.1 c hc
  | noise text => exact h.1

theorem tokenize_line (words : List SpelledWord) :
    tokenize (String.ofList (SpelledWord.line words)) = .ok (words.map (·.word)) := by
  rw [tokenize, Shell.words, String.toList_ofList, SpelledWord.wordList_line]
  simp only [Except.map, List.map_map, Function.comp_def, String.ofList_toList]

theorem Fits.job?_ofLine (h : line.Fits driver) :
    (ListedLine.ofLine (.driver driver) (line.text driver)).job? = line.job? := by
  cases line with
  | job executable args =>
    have hedged : Shell.Edged (String.ofList (SpelledWord.line (executable :: args))).toList := by
      rw [String.toList_ofList]
      exact SpelledWord.edged_line (List.cons_ne_nil _ _)
    rw [ListedLine.ofLine, text, jobText?_mark hedged h.2]
    simp only [tokenize_line]
    rfl
  | noise text =>
    rw [ListedLine.ofLine, PrintedLine.text, jobText?_noise h.2]
    rfl

end PrintedLine

/-! ## What is read of the lines -/

theorem filterMap_listing {α : Type} {view : ListedLine → Option α} (kind : Toolchain)
    (output : String) :
    (listing kind output).filterMap view = (Text.lineList output.toList).filterMap fun line =>
      view (ListedLine.ofLine kind (String.ofList line)) := by
  rw [listing, Text.lines, List.map_map, List.filterMap_map]
  rfl

theorem ofLine_empty (driver : Driver) : ListedLine.ofLine (.driver driver) "" = .noise := by
  cases driver <;> rfl

def readJob? (driver : Driver) (line : List Char) : Option Job :=
  (ListedLine.ofLine (.driver driver) (String.ofList line)).job?

theorem jobsOf_eq_filterMap (driver : Driver) (output : String) :
    jobsOf (.driver driver) output = (Text.lineList output.toList).filterMap (readJob? driver) :=
  filterMap_listing (.driver driver) output

theorem readJob?_nil (driver : Driver) : readJob? driver [] = none := by
  rw [readJob?, String.ofList_nil, ofLine_empty]
  rfl

theorem readJob?_dropEndWhile (driver : Driver) (line : List Char) :
    readJob? driver (Text.dropEndWhile Text.isBlank line) = readJob? driver line := by
  unfold readJob? ListedLine.ofLine
  rw [jobText?_dropEndWhile]

theorem jobsOf_stripEnd (driver : Driver) (output : String) :
    jobsOf (.driver driver) (Text.stripEnd output) = jobsOf (.driver driver) output := by
  rw [jobsOf_eq_filterMap, jobsOf_eq_filterMap, Text.stripEnd, String.toList_ofList,
    Text.filterMap_lineList_dropEndWhile (readJob?_nil driver) (readJob?_dropEndWhile driver)]

theorem jobsOf_output {driver : Driver} {lines : List PrintedLine}
    (h : ∀ line ∈ lines, line.Fits driver) :
    jobsOf (.driver driver) (PrintedLine.output driver lines) =
      lines.filterMap PrintedLine.job? := by
  have hlines : ∀ cs ∈ lines.map fun line => (line.text driver).toList, Text.IsLine cs := by
    intro cs hcs
    obtain ⟨line, hl, rfl⟩ := List.mem_map.1 hcs
    exact (h line hl).isLine
  have hchars : (PrintedLine.output driver lines).toList =
      ['\n'].intercalate (lines.map fun line => (line.text driver).toList) := by
    rw [PrintedLine.output, String.toList_intercalate, List.map_map]
    rfl
  rw [jobsOf_eq_filterMap, hchars,
    Text.filterMap_lineList_intercalate (readJob?_nil driver) hlines, List.filterMap_map]
  refine List.filterMap_congr fun line hl => ?_
  rw [Function.comp_apply, readJob?, String.ofList_toList, (h line hl).job?_ofLine]

theorem discoverJobs_of_runsInTime {terms : Terms} {driver : Driver} {executable : String}
    {dir : Path} {world : World} {behaviour : Behaviour}
    (h : RunsInTime terms executable dir world behaviour) (hstatus : behaviour.status = 0)
    (args : List String) :
    (discoverJobs terms (.driver driver) executable args dir world).1 =
      .ok (some (jobsOf (.driver driver) behaviour.text)) := by
  have hrun := fun message => (h.log .debug .dryRun message).run_fst (driver.dryRunArgs args)
  unfold discoverJobs
  simp only [Toolchain.dryRunWords?, Toolchain.dryRunArgs?, Option.map_some, hrun, dryRunOutput,
    hstatus, if_pos, readJobs]

/-- The lines that a driver prints are read as the jobs among them, in order, whether they are given
as a text or come from a dry run that ends in time and well. -/
theorem jobsOf_printed {driver : Driver} {lines : List PrintedLine}
    (h : ∀ line ∈ lines, line.Fits driver) :
    jobsOf (.driver driver) (PrintedLine.output driver lines) =
        lines.filterMap PrintedLine.job? ∧
      ∀ (terms : Terms) (executable : String) (args : List String) (dir : Path) (world : World)
        (behaviour : Behaviour), RunsInTime terms executable dir world behaviour →
        behaviour.output = Text.Utf8.encode (PrintedLine.output driver lines).toList →
        behaviour.status = 0 →
        (discoverJobs terms (.driver driver) executable args dir world).1 =
          .ok (some (lines.filterMap PrintedLine.job?)) := by
  refine ⟨jobsOf_output h, fun terms executable args dir world behaviour hrun hout hstatus => ?_⟩
  have htext : behaviour.text = Text.stripEnd (PrintedLine.output driver lines) := by
    rw [Behaviour.text, hout, Text.Utf8.decode_encode, String.ofList_toList]
  rw [discoverJobs_of_runsInTime hrun hstatus, htext, jobsOf_stripEnd, jobsOf_output h]

/-- What clang prints for one job. -/
def clangLines : List PrintedLine :=
  [.noise "clang version 17.0.6", .noise " (in-process)",
    .job ⟨"/usr/bin/clang", .double⟩ [⟨"-cc1", .double⟩, ⟨"a \"b\".c", .double⟩, ⟨"", .shell⟩]]

def clangBehaviour : Behaviour where
  output := Text.Utf8.encode (PrintedLine.output .clang clangLines).toList
  duration := some (Ticks.ofMilliseconds 1000)

def clangWorld : World where
  host := { cwd := .ofString "/work"
            files := [(.ofString "/usr/bin/clang", { launches := [.started clangBehaviour] })] }

theorem jobsOf_printed_clang :
    jobsOf (.driver .clang) (PrintedLine.output .clang clangLines) =
        [⟨"/usr/bin/clang", ["-cc1", "a \"b\".c", ""]⟩] ∧
      (discoverJobs {} (.driver .clang) "/usr/bin/clang" ["a.c"] (.ofString "/work")
        clangWorld).1 = .ok (some [⟨"/usr/bin/clang", ["-cc1", "a \"b\".c", ""]⟩]) := by
  have hfits : ∀ line ∈ clangLines, line.Fits .clang := by
    simp only [clangLines, List.forall_mem_cons, List.not_mem_nil, false_implies, implies_true,
      and_true, PrintedLine.Fits]
    refine ⟨⟨by decide, .inl fun rest h => ?_⟩, ⟨by decide, .inr (.inr (by decide))⟩,
      ⟨by decide, by decide, by decide⟩, nofun⟩
    exact absurd (Text.begins_iff.2 ⟨rest, h⟩) (by decide)
  have hrun : RunsInTime {} "/usr/bin/clang" (.ofString "/work") clangWorld clangBehaviour := by
    refine ⟨rfl, ⟨.ofString "/usr/bin/clang", by decide, rfl⟩, ⟨_, rfl, ?_⟩⟩
    exact ⟨by simp [Terms.cancelTime?], by simp, by simp⟩
  have hall := jobsOf_printed hfits
  exact ⟨hall.1, hall.2 {} _ _ _ _ clangBehaviour hrun rfl rfl⟩

end CompilerCommands
