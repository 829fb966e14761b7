import CompilerCommands.Command.Error

/-!
# The grammar of command lines

What a command line is, without a way to read it: words stand between runs of blanks, and a word is
a row of segments, each of which stands for some characters. The words of a line are those that it
derives. A line derives none exactly if some front of it does and the rest begins a segment that
does not end.
-/

namespace CompilerCommands

namespace Shell

/-! ## Words -/

def separators : List Char := [' ', '\t', '\r', '\n']

/-- The characters that begin a segment of more than themselves. -/
def quotes : List Char := ['\'', '"', '\\']

/-- What stands between double quotes one after another, and what each stands for. -/
inductive QuotedItem : List Char → List Char → Prop
  | escaped {c : Char} (h : c = '"' ∨ c = '\\') : QuotedItem ['\\', c] [c]
  | backslash {c : Char} (h : ¬(c = '"' ∨ c = '\\')) : QuotedItem ['\\', c] ['\\', c]
  | plain {c : Char} (h : ¬(c = '"' ∨ c = '\\')) : QuotedItem [c] [c]

/-- All that stands between double quotes, and what it stands for. -/
inductive QuotedText : List Char → List Char → Prop
  | nil : QuotedText [] []
  | cons {item text front value : List Char} (h : QuotedItem item front)
      (hrest : QuotedText text value) : QuotedText (item ++ text) (front ++ value)

/-- A piece of a word, and what it stands for. -/
inductive Segment : List Char → List Char → Prop
  | plain {c : Char} (hsep : c ∉ separators) (hquote : c ∉ quotes) : Segment [c] [c]
  | escaped (c : Char) : Segment ['\\', c] [c]
  | single {value : List Char} (h : '\'' ∉ value) : Segment ('\'' :: (value ++ ['\''])) value
  | double {text value : List Char} (h : QuotedText text value) :
    Segment ('"' :: (text ++ ['"'])) value

/-- A row of one segment or more, and what it stands for. -/
inductive Word : List Char → List Char → Prop
  | single {text value : List Char} (h : Segment text value) : Word text value
  | cons {segment text front value : List Char} (h : Segment segment front)
      (hrest : Word text value) : Word (segment ++ text) (front ++ value)

/-! ## Lines -/

def IsRun (text : List Char) : Prop := ∀ c ∈ text, c ∈ separators

/-- Does not go on with the word before it. -/
def Separated (text : List Char) : Prop := ∀ c ∈ text.head?, c ∈ separators

/-- A line and its words. -/
inductive Derives : List Char → List (List Char) → Prop
  | blank {run : List Char} (h : IsRun run) : Derives run []
  | word {run text rest value : List Char} {words : List (List Char)} (hrun : IsRun run)
      (hword : Word text value) (hsep : Separated rest) (hrest : Derives rest words) :
    Derives (run ++ (text ++ rest)) (value :: words)

/-- Begins a segment that does not end, and what is missing. -/
inductive Unended : List Char → Unfinished → Prop
  | escape : Unended ['\\'] .escape
  | single {text : List Char} (h : '\'' ∉ text) : Unended ('\'' :: text) .quotation
  | double {text value : List Char} (h : QuotedText text value) : Unended ('"' :: text) .quotation
  | doubleEscape {text value : List Char} (h : QuotedText text value) :
    Unended ('"' :: (text ++ ['\\'])) .escape

/-- Ends in a segment that does not end, after what may be a line by itself. -/
inductive BreaksOff : List Char → Unfinished → Prop
  | intro {front rest : List Char} {words : List (List Char)} {why : Unfinished}
      (hfront : Derives front words) (hrest : Unended rest why) : BreaksOff (front ++ rest) why

/-! ## Reading segments -/

theorem isSeparator_iff {c : Char} : isSeparator c = true ↔ c ∈ separators := by
  simp only [isSeparator, separators, Bool.or_eq_true, beq_iff_eq, List.mem_cons, List.not_mem_nil,
    or_false, or_assoc]

theorem scan_double_item {item value : List Char} (h : QuotedItem item value) (rest : List Char) :
    scan .double (item ++ rest) = (scan .double rest).map (Tail.pushAll value) := by
  cases h with
  | escaped h =>
    rw [List.cons_append, List.cons_append, List.nil_append, scan.eq_def]
    simp only [show ('\\' : Char) ≠ '"' by decide, if_false, if_true, if_pos h]
    rfl
  | backslash h =>
    rw [List.cons_append, List.cons_append, List.nil_append, scan.eq_def]
    simp only [show ('\\' : Char) ≠ '"' by decide, if_false, if_true, if_neg h]
    rfl
  | plain h =>
    rw [not_or] at h
    exact scan_double_plain h.1 h.2 rest

theorem pushAll_append (front value : List Char) (t : Tail) :
    t.pushAll (front ++ value) = (t.pushAll value).pushAll front := List.foldr_append

theorem scan_double_text {text value : List Char} (h : QuotedText text value) (rest : List Char) :
    scan .double (text ++ rest) = (scan .double rest).map (Tail.pushAll value) := by
  induction h with
  | nil => cases hscan : scan .double rest <;> simp [Except.map, hscan, Tail.pushAll]
  | cons h _ ih =>
    rw [List.append_assoc, scan_double_item h, ih, map_map]
    congr 1
    funext t
    exact (pushAll_append _ _ t).symm

theorem scan_single_text {text : List Char} (h : '\'' ∉ text) (rest : List Char) :
    scan .single (text ++ rest) = (scan .single rest).map (Tail.pushAll text) := by
  induction text with
  | nil => cases hscan : scan .single rest <;> simp [Except.map, hscan, Tail.pushAll]
  | cons c text ih =>
    simp only [List.mem_cons, not_or] at h
    rw [List.cons_append, scan_single_plain (Ne.symm h.1), ih h.2, map_map]
    rfl

theorem Segment.readsAs {text value : List Char} (h : Segment text value) : ReadsAs text value := by
  intro rest
  cases h with
  | plain hsep hquote =>
    simp only [quotes, List.mem_cons, List.not_mem_nil, or_false, not_or] at hquote
    have hplain := Bool.eq_false_iff.2 (mt isSeparator_iff.1 hsep)
    exact scan_bare_plain hplain hquote.1 hquote.2.1 hquote.2.2 rest
  | escaped c => exact scan_bare_backslash c rest
  | single h =>
    rw [List.cons_append, List.append_assoc, List.cons_append, List.nil_append, scan_bare_quote,
      scan_single_text h, scan_single_quote, map_map]
    rfl
  | double h =>
    rw [List.cons_append, List.append_assoc, List.cons_append, List.nil_append,
      scan_bare_doubleQuote, scan_double_text h, scan_double_doubleQuote, map_map]
    rfl

theorem ReadsAs.append {a b front value : List Char} (ha : ReadsAs a front) (hb : ReadsAs b value) :
    ReadsAs (a ++ b) (front ++ value) := by
  intro rest
  rw [List.append_assoc, ha, hb, map_map]
  congr 1
  funext t
  simp [Tail.start_pushAll]

theorem Word.readsAs {text value : List Char} (h : Word text value) : ReadsAs text value := by
  induction h with
  | single h => exact h.readsAs
  | cons h _ ih => exact h.readsAs.append ih

/-! ## Reading lines -/

theorem wordList_run {run : List Char} (h : IsRun run) (rest : List Char) :
    wordList (run ++ rest) = wordList rest := by
  induction run with
  | nil => rfl
  | cons c run ih =>
    have hrest : IsRun run := fun d hd => h d (List.mem_cons_of_mem _ hd)
    rw [← ih hrest, List.cons_append, wordList, wordList,
      scan_bare_separator (isSeparator_iff.2 (h c List.mem_cons_self)), map_map]
    rfl

theorem current_of_separated {text : List Char} {t : Tail} (h : Separated text)
    (hscan : scan .bare text = .ok t) : t.current = none := by
  cases text with
  | nil =>
    cases hscan
    rfl
  | cons c rest =>
    rw [scan_bare_separator (isSeparator_iff.2 (h c rfl))] at hscan
    cases hrest : scan .bare rest with
    | error why =>
      rw [hrest] at hscan
      cases hscan
    | ok later =>
      rw [hrest] at hscan
      cases hscan
      rfl

theorem wordList_word {text value rest : List Char} (h : ReadsAs text value)
    (hsep : Separated rest) : wordList (text ++ rest) = (wordList rest).map (value :: ·) := by
  rw [wordList, wordList, h rest]
  cases hscan : scan .bare rest with
  | error why => rfl
  | ok t =>
    simp only [Except.map, Tail.words, Tail.start_pushAll, current_of_separated hsep hscan]
    simp

theorem Derives.wordList_eq {line : List Char} {words : List (List Char)} (h : Derives line words) :
    wordList line = .ok words := by
  induction h with
  | @blank run h =>
    rw [← List.append_nil run, wordList_run h]
    rfl
  | word hrun hword hsep _ ih =>
    rw [wordList_run hrun, wordList_word hword.readsAs hsep, ih]
    rfl

/-! ## Reading what does not end -/

theorem Unended.wordList_eq {text : List Char} {why : Unfinished} (h : Unended text why) :
    wordList text = .error why := by
  cases h with
  | escape => rfl
  | single h =>
    have hscan := scan_single_text h []
    rw [List.append_nil] at hscan
    rw [wordList, scan_bare_quote, hscan]
    rfl
  | double h =>
    have hscan := scan_double_text h []
    rw [List.append_nil] at hscan
    rw [wordList, scan_bare_doubleQuote, hscan]
    rfl
  | doubleEscape h =>
    rw [wordList, scan_bare_doubleQuote, scan_double_text h]
    rfl

theorem wordList_word_error {text value rest : List Char} {why : Unfinished}
    (h : ReadsAs text value) (hrest : wordList rest = .error why) :
    wordList (text ++ rest) = .error why := by
  unfold wordList at hrest ⊢
  rw [h rest]
  cases hscan : scan .bare rest with
  | error other =>
    rw [hscan] at hrest
    cases hrest
    rfl
  | ok t =>
    rw [hscan] at hrest
    cases hrest

theorem BreaksOff.wordList_eq {line : List Char} {why : Unfinished} (h : BreaksOff line why) :
    wordList line = .error why := by
  obtain ⟨hfront, hrest⟩ := h
  induction hfront with
  | blank hrun => rw [wordList_run hrun, hrest.wordList_eq]
  | word hrun hword _ _ ih =>
    rw [List.append_assoc, List.append_assoc, wordList_run hrun,
      wordList_word_error hword.readsAs ih]

/-! ## Every line derives words or breaks off -/

theorem isRun_nil : IsRun [] := fun c hc => by cases hc

theorem Derives.nil : Derives [] [] := .blank isRun_nil

theorem quoted_or_unended : ∀ rest : List Char,
    (∃ text value after, QuotedText text value ∧ rest = text ++ '"' :: after) ∨
      ∃ text value, QuotedText text value ∧ (rest = text ∨ rest = text ++ ['\\'])
  | [] => .inr ⟨[], [], .nil, .inl rfl⟩
  | [c] => by
    by_cases hquote : c = '"'
    · exact .inl ⟨[], [], [], .nil, by rw [hquote]; rfl⟩
    · by_cases hbackslash : c = '\\'
      · exact .inr ⟨[], [], .nil, .inr (by rw [hbackslash]; rfl)⟩
      · exact .inr ⟨[c], [c], .cons (.plain (by simp [hquote, hbackslash])) .nil, .inl rfl⟩
  | c :: d :: rest => by
    by_cases hquote : c = '"'
    · exact .inl ⟨[], [], d :: rest, .nil, by rw [hquote]; rfl⟩
    -- one item, and what follows it
    obtain ⟨item, front, tail, hitem, hsplit, htail⟩ : ∃ item front tail, QuotedItem item front ∧
        c :: d :: rest = item ++ tail ∧ (tail = rest ∨ tail = d :: rest) := by
      by_cases hbackslash : c = '\\'
      · rw [hbackslash]
        by_cases hescape : d = '"' ∨ d = '\\'
        · exact ⟨_, _, rest, .escaped hescape, rfl, .inl rfl⟩
        · exact ⟨_, _, rest, .backslash hescape, rfl, .inl rfl⟩
      · exact ⟨_, _, d :: rest, .plain (by simp [hquote, hbackslash]), rfl, .inr rfl⟩
    have ih : (∃ text value after, QuotedText text value ∧ tail = text ++ '"' :: after) ∨
        ∃ text value, QuotedText text value ∧ (tail = text ∨ tail = text ++ ['\\']) := by
      rcases htail with htail | htail <;> rw [htail]
      · exact quoted_or_unended rest
      · exact quoted_or_unended (d :: rest)
    rw [hsplit]
    rcases ih with ⟨text, value, after, htext, rfl⟩ | ⟨text, value, htext, rfl | rfl⟩
    · exact .inl ⟨_, _, after, .cons hitem htext, (List.append_assoc ..).symm⟩
    · exact .inr ⟨_, _, .cons hitem htext, .inl rfl⟩
    · exact .inr ⟨_, _, .cons hitem htext, .inr (List.append_assoc ..).symm⟩

theorem segment_or_unended {c : Char} (h : c ∉ separators) (rest : List Char) :
    (∃ text value after, Segment text value ∧ c :: rest = text ++ after) ∨
      ∃ why, Unended (c :: rest) why := by
  by_cases hplain : c ∉ quotes
  · exact .inl ⟨[c], [c], rest, .plain h hplain, rfl⟩
  have hquote : c ∈ quotes := Decidable.not_not.1 hplain
  simp only [quotes, List.mem_cons, List.not_mem_nil, or_false] at hquote
  rcases hquote with rfl | rfl | rfl
  · by_cases hquote : '\'' ∈ rest
    · obtain ⟨value, after, rfl, hvalue⟩ := List.eq_append_cons_of_mem hquote
      exact .inl ⟨_, value, after, .single hvalue, by simp⟩
    · exact .inr ⟨_, .single hquote⟩
  · obtain ⟨text, value, after, htext, rfl⟩ | ⟨text, value, htext, rfl | rfl⟩ :=
      quoted_or_unended rest
    · exact .inl ⟨_, value, after, .double htext, by simp⟩
    · exact .inr ⟨_, .double htext⟩
    · exact .inr ⟨_, .doubleEscape htext⟩
  · cases rest with
    | nil => exact .inr ⟨_, .escape⟩
    | cons d rest => exact .inl ⟨_, [d], rest, .escaped d, rfl⟩

theorem Segment.ne_nil {text value : List Char} (h : Segment text value) : text ≠ [] := by
  cases h <;> simp

theorem Derives.cons_separator {c : Char} {line : List Char} {words : List (List Char)}
    (hc : c ∈ separators) (h : Derives line words) : Derives (c :: line) words := by
  have hrun {run : List Char} (h : IsRun run) : IsRun (c :: run) := by
    intro d hd
    rcases List.mem_cons.1 hd with rfl | hd
    · exact hc
    · exact h d hd
  cases h with
  | blank h => exact .blank (hrun h)
  | word h hword hsep hrest => exact .word (hrun h) hword hsep hrest

/-- A segment before a line makes its first word longer, or is a word more. -/
theorem Derives.segment_append {text value line : List Char} {words : List (List Char)}
    (h : Segment text value) (hline : Derives line words) :
    ∃ words, Derives (text ++ line) words := by
  cases hline with
  | blank hrun =>
    have hsep : Separated line := fun c hc => hrun c (List.mem_of_mem_head? hc)
    exact ⟨_, .word isRun_nil (.single h) hsep (.blank hrun)⟩
  | @word run first rest value' words hrun hword hsep hrest =>
    cases run with
    | nil =>
      have hlonger := Derives.word isRun_nil (.cons h hword) hsep hrest
      rw [List.append_assoc] at hlonger
      exact ⟨_, hlonger⟩
    | cons c run =>
      have hseparated : Separated (c :: run ++ (first ++ rest)) := by
        rintro d ⟨⟩
        exact hrun c List.mem_cons_self
      have hline : Derives (c :: run ++ (first ++ rest)) (value' :: words) :=
        .word hrun hword hsep hrest
      have hmore := Derives.word isRun_nil (.single h) hseparated hline
      exact ⟨_, hmore⟩

theorem derives_or_breaksOff (line : List Char) :
    (∃ words, Derives line words) ∨ ∃ why, BreaksOff line why := by
  match line with
  | [] => exact .inl ⟨[], .nil⟩
  | c :: rest =>
    by_cases hsep : c ∈ separators
    · rcases derives_or_breaksOff rest with ⟨words, h⟩ | ⟨why, hfront, hrest⟩
      · exact .inl ⟨words, h.cons_separator hsep⟩
      · exact .inr ⟨why, .intro (hfront.cons_separator hsep) hrest⟩
    · rcases segment_or_unended hsep rest with ⟨text, value, after, hsegment, hsplit⟩ | ⟨why, h⟩
      · have hshorter : after.length < (c :: rest).length := by
          have := List.length_pos_iff.2 hsegment.ne_nil
          rw [hsplit, List.length_append]
          omega
        rw [hsplit]
        rcases derives_or_breaksOff after with ⟨words, h⟩ | ⟨why, hfront, hrest⟩
        · exact .inl (h.segment_append hsegment)
        · obtain ⟨words, hfront⟩ := hfront.segment_append hsegment
          rw [← List.append_assoc]
          exact .inr ⟨why, .intro hfront hrest⟩
      · exact .inr ⟨why, .intro .nil h⟩
termination_by line.length
decreasing_by
  · exact Nat.lt_succ_self _
  · exact hshorter

theorem wordList_eq_ok_iff {line : List Char} {words : List (List Char)} :
    wordList line = .ok words ↔ Derives line words := by
  refine ⟨fun h => ?_, Derives.wordList_eq⟩
  rcases derives_or_breaksOff line with ⟨others, hline⟩ | ⟨why, hline⟩
  · cases hline.wordList_eq.symm.trans h
    exact hline
  · cases hline.wordList_eq.symm.trans h

theorem wordList_eq_error_iff {line : List Char} {why : Unfinished} :
    wordList line = .error why ↔ BreaksOff line why := by
  refine ⟨fun h => ?_, BreaksOff.wordList_eq⟩
  rcases derives_or_breaksOff line with ⟨words, hline⟩ | ⟨other, hline⟩
  · cases hline.wordList_eq.symm.trans h
  · cases hline.wordList_eq.symm.trans h
    exact hline

end Shell

open Shell

/-- The words of a line are those that it derives. A line has none exactly if it derives none, and
that is if it breaks off: inside quotes, or after a backslash that keeps the next character. -/
theorem tokenize_iff_derives (line : String) :
    (∀ words : List String,
      tokenize line = .ok words ↔ Derives line.toList (words.map String.toList)) ∧
    ((∃ cause, tokenize line = .error (.malformedLine cause)) ↔
      ¬∃ words, Derives line.toList words) ∧
    ((¬∃ words, Derives line.toList words) ↔ ∃ why, BreaksOff line.toList why) ∧
    ∀ why, tokenize line = .error (.malformedLine (.unfinished line why)) ↔
      BreaksOff line.toList why := by
  have htokenize : tokenize line = match wordList line.toList with
      | .ok words => .ok (words.map String.ofList)
      | .error why => .error (.malformedLine (.unfinished line why)) := by
    unfold tokenize Shell.words
    cases wordList line.toList <;> rfl
  rw [htokenize]
  simp only [← wordList_eq_ok_iff, ← wordList_eq_error_iff]
  cases wordList line.toList with
  | ok words =>
    refine ⟨fun others => ?_, by simp, by simp, by simp⟩
    simp only [Except.ok.injEq]
    constructor
    · rintro rfl
      simp [List.map_map, Function.comp_def]
    · rintro rfl
      simp [List.map_map, Function.comp_def]
  | error why => simp

end CompilerCommands
