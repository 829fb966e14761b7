import CompilerCommands.Proofs.DryRun.PrintedJobs
import CompilerCommands.Proofs.Shell.Grammar

/-!
# A listing line by line

What is read of a line does not depend on the lines around it: a line feed between two texts keeps
their jobs and records apart, whatever stands at its sides. A line whose job cannot be read costs
that job and leaves one record. A job that can be read has a word.
-/

namespace CompilerCommands

/-! ## One line -/

namespace ListedLine

variable {kind : Toolchain} {line text : String}

theorem ofLine_of_error {error : CommandError} (hshown : kind.jobText? line = some text)
    (herror : tokenize text = .error error) : ofLine kind line = .unreadable text error := by
  simp only [ofLine, hshown, herror]

theorem ofLine_of_ok {words : List String} (hshown : kind.jobText? line = some text)
    (hwords : tokenize text = .ok words) :
    (ofLine kind line).job? = Job.ofWords? words := by
  cases words <;> simp only [ofLine, hshown, hwords, Job.ofWords?, job?]

end ListedLine

theorem trimmed_of_jobText? {driver : Driver} {line text : String}
    (h : (Toolchain.driver driver).jobText? line = some text) :
    Text.Trimmed Text.isBlank text.toList ∧ text.toList ≠ [] := by
  rw [jobText?_eq_bind, Option.bind_eq_some_iff] at h
  obtain ⟨rest, -, hrest⟩ := h
  unfold Driver.jobIn? at hrest
  simp only [Option.ite_none_left_eq_some, Option.some.injEq, Bool.or_eq_true, not_or] at hrest
  obtain ⟨⟨hne, -⟩, rfl⟩ := hrest
  refine ⟨?_, fun hnil => hne ?_⟩
  · rw [Text.toList_strip]
    exact Text.trimmed_trim _ _
  · rw [String.isEmpty_iff, ← String.toList_inj, hnil]
    rfl

theorem words_ne_nil_of_trimmed {text : String} {words : List String}
    (htrim : Text.Trimmed Text.isBlank text.toList) (hne : text.toList ≠ [])
    (hwords : tokenize text = .ok words) : words ≠ [] := by
  rintro rfl
  have hlist : Shell.wordList text.toList = .ok [] := by
    unfold tokenize Shell.words at hwords
    cases hlist : Shell.wordList text.toList with
    | error why => simp [hlist, Except.map] at hwords
    | ok found => simpa [hlist, Except.map] using hwords
  obtain ⟨c, rest, hcs⟩ := List.exists_cons_of_ne_nil hne
  have hkept : Text.isBlank c = false := htrim.head c (by simp [hcs])
  have hblank : Shell.separators.all Text.isBlank = true := by decide
  rw [hcs] at hlist
  -- a line without words is a run of blanks
  generalize hline : c :: rest = line at hlist
  cases Shell.wordList_eq_ok_iff.1 hlist with
  | blank hrun =>
    rw [← hline] at hrun
    rw [List.all_eq_true.1 hblank c (hrun c List.mem_cons_self)] at hkept
    cases hkept

theorem job?_ofLine_eq (driver : Driver) (line : String) :
    (ListedLine.ofLine (.driver driver) line).job?.map Job.words =
      ((Toolchain.driver driver).jobText? line).bind fun text => (tokenize text).toOption := by
  cases hshown : (Toolchain.driver driver).jobText? line with
  | none =>
    simp only [ListedLine.ofLine, hshown]
    rfl
  | some text =>
    cases hwords : tokenize text with
    | error error =>
      rw [ListedLine.ofLine_of_error hshown hwords]
      simp only [Option.bind_some, hwords]
      rfl
    | ok words =>
      obtain ⟨htrim, hne⟩ := trimmed_of_jobText? hshown
      obtain ⟨executable, args, rfl⟩ :=
        List.exists_cons_of_ne_nil (words_ne_nil_of_trimmed htrim hne hwords)
      rw [ListedLine.ofLine_of_ok hshown hwords]
      simp only [Option.bind_some, hwords]
      rfl

/-! ## Lines beside each other -/

section View

variable {α : Type} {view : ListedLine → Option α}

/-- A view that passes over noise shows of two texts with a line feed between them what it shows of
the one and then what it shows of the other. -/
theorem filterMap_listing_append (hnoise : view .noise = none) (driver : Driver) (a b : String) :
    (listing (.driver driver) (a ++ "\n" ++ b)).filterMap view =
      (listing (.driver driver) a).filterMap view ++
        (listing (.driver driver) b).filterMap view := by
  have hempty : view (ListedLine.ofLine (.driver driver) (String.ofList [])) = none := by
    rw [String.ofList_nil, ofLine_empty, hnoise]
  have hchars : (a ++ "\n" ++ b).toList = a.toList ++ '\n' :: b.toList := by simp
  rw [filterMap_listing, filterMap_listing, filterMap_listing, hchars,
    Text.filterMap_lineList_append_newline hempty]

theorem filterMap_listing_line {line : String} (h : Text.IsLine line.toList)
    (hnoise : view .noise = none) (driver : Driver) :
    (listing (.driver driver) line).filterMap view =
      (view (ListedLine.ofLine (.driver driver) line)).toList := by
  by_cases hne : line.toList = []
  · obtain rfl : line = "" := String.toList_inj.1 hne
    rw [ofLine_empty, hnoise]
    rfl
  · rw [filterMap_listing, Text.lineList_of_no_end hne h, List.filterMap_cons, List.filterMap_nil,
      String.ofList_toList]
    cases view (ListedLine.ofLine (.driver driver) line) <;> rfl

end View

theorem jobsOf_append (driver : Driver) (a b : String) :
    jobsOf (.driver driver) (a ++ "\n" ++ b) =
      jobsOf (.driver driver) a ++ jobsOf (.driver driver) b :=
  filterMap_listing_append rfl driver a b

theorem recordsOf_append (driver : Driver) (a b : String) :
    recordsOf (.driver driver) (a ++ "\n" ++ b) =
      recordsOf (.driver driver) a ++ recordsOf (.driver driver) b :=
  filterMap_listing_append rfl driver a b

def unreadableRecord (text : String) (error : CommandError) : LogRecord where
  level := .debug
  source := .dryRun
  message := "Skipping unparsable job line " ++ Text.quoted text ++ ": " ++ error.message

theorem listing_of_error {driver : Driver} {line text : String} {error : CommandError}
    (hline : Text.IsLine line.toList)
    (hshown : (Toolchain.driver driver).jobText? line = some text)
    (herror : tokenize text = .error error) :
    jobsOf (.driver driver) line = [] ∧
      recordsOf (.driver driver) line = [unreadableRecord text error] := by
  have hread := ListedLine.ofLine_of_error hshown herror
  rw [jobsOf, recordsOf, filterMap_listing_line hline rfl, filterMap_listing_line hline rfl, hread]
  exact ⟨rfl, rfl⟩

theorem map_words_jobsOf (driver : Driver) (output : String) :
    (jobsOf (.driver driver) output).map Job.words = (Text.lines output).filterMap fun line =>
      ((Toolchain.driver driver).jobText? line).bind fun text => (tokenize text).toOption := by
  rw [jobsOf, listing, List.filterMap_map, List.map_filterMap]
  exact List.filterMap_congr fun line _ => job?_ofLine_eq driver line

/-- The jobs of two texts with a line feed between them are those of the one and then those of the
other, and so are the records. A line between them whose job cannot be read adds one record and
nothing else. White space at the end of a text changes no job. All that the lines show is a job as
far as it can be read, and no job is without words. -/
theorem jobsOf_append_newline (driver : Driver) (a b : String) :
    jobsOf (.driver driver) (a ++ "\n" ++ b) =
      jobsOf (.driver driver) a ++ jobsOf (.driver driver) b ∧
    recordsOf (.driver driver) (a ++ "\n" ++ b) =
      recordsOf (.driver driver) a ++ recordsOf (.driver driver) b ∧
    (∀ (line text : String) (error : CommandError), Text.IsLine line.toList →
      (Toolchain.driver driver).jobText? line = some text → tokenize text = .error error →
      jobsOf (.driver driver) (a ++ "\n" ++ line ++ "\n" ++ b) =
        jobsOf (.driver driver) a ++ jobsOf (.driver driver) b ∧
      recordsOf (.driver driver) (a ++ "\n" ++ line ++ "\n" ++ b) =
        recordsOf (.driver driver) a ++ unreadableRecord text error ::
          recordsOf (.driver driver) b) ∧
    jobsOf (.driver driver) (Text.stripEnd a) = jobsOf (.driver driver) a ∧
    ((jobsOf (.driver driver) a).map Job.words = (Text.lines a).filterMap fun line =>
      ((Toolchain.driver driver).jobText? line).bind fun text => (tokenize text).toOption) ∧
    ∀ words ∈ (jobsOf (.driver driver) a).map Job.words, words ≠ [] := by
  refine ⟨jobsOf_append driver a b, recordsOf_append driver a b, ?_, jobsOf_stripEnd driver a,
    map_words_jobsOf driver a, ?_⟩
  · intro line text error hline hshown herror
    obtain ⟨hjobs, hrecords⟩ := listing_of_error hline hshown herror
    constructor
    · rw [jobsOf_append, jobsOf_append, hjobs, List.append_nil]
    · rw [recordsOf_append, recordsOf_append, hrecords, List.append_assoc, List.singleton_append]
  · intro words hwords
    obtain ⟨job, -, rfl⟩ := List.mem_map.1 hwords
    exact job.words_ne_nil

/-- A carriage return before the line feed, and a quotation that does not end. -/
theorem jobsOf_append_newline_unfinished :
    jobsOf (.driver .clang) (" ld a.o\r" ++ "\n" ++ " \"as" ++ "\n" ++ " as b.s ") =
      [⟨"ld", ["a.o"]⟩, ⟨"as", ["b.s"]⟩] ∧
    (recordsOf (.driver .clang) (" ld a.o\r" ++ "\n" ++ " \"as" ++ "\n" ++ " as b.s ")).length =
      1 := by
  obtain ⟨-, -, hskips, -⟩ := jobsOf_append_newline .clang " ld a.o\r" " as b.s "
  obtain ⟨hjobs, hrecords⟩ := hskips " \"as" "\"as"
    (.malformedLine (.unfinished "\"as" .quotation)) (by decide) (by decide +kernel)
    (by decide +kernel)
  have hbefore : jobsOf (.driver .clang) " ld a.o\r" = [⟨"ld", ["a.o"]⟩] ∧
      recordsOf (.driver .clang) " ld a.o\r" = [] := by decide +kernel
  have hafter : jobsOf (.driver .clang) " as b.s " = [⟨"as", ["b.s"]⟩] ∧
      recordsOf (.driver .clang) " as b.s " = [] := by decide +kernel
  rw [hjobs, hrecords, hbefore.1, hbefore.2, hafter.1, hafter.2]
  exact ⟨rfl, rfl⟩

end CompilerCommands
