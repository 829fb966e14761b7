import CompilerCommands.Shell.Words

/-!
# Command lines from words

A word of safe characters stands as it is. Any other word, the empty one included, is put between
single quotes; a single quote in it leaves them, stands between double quotes, and enters them
again.
-/

namespace CompilerCommands.Shell

/-- Has no meaning to a shell. -/
def isSafe (c : Char) : Bool := c.isAlphanum || "_@%+=:,./-".toList.contains c

def escapeSingle (c : Char) : List Char :=
  if c = '\'' then ['\'', '"', '\'', '"', '\''] else [c]

/-- A word as a shell reads it back. -/
def quoteWord (word : List Char) : List Char :=
  if word ≠ [] ∧ word.all isSafe then word else '\'' :: word.flatMap escapeSingle ++ ['\'']

/-- A command line that holds exactly `words`. -/
def quoteList (words : List (List Char)) : List Char := [' '].intercalate (words.map quoteWord)

def quote (words : List String) : String := String.ofList (quoteList (words.map String.toList))

/-! ## Reading back -/

theorem map_map {ε α β γ : Type} (f : α → β) (g : β → γ) (x : Except ε α) :
    (x.map f).map g = x.map (g ∘ f) := by cases x <;> rfl

theorem isSafe_plain {c : Char} (h : isSafe c = true) :
    isSeparator c = false ∧ c ≠ '\'' ∧ c ≠ '"' ∧ c ≠ '\\' := by
  refine ⟨?_, ?_, ?_, ?_⟩
  · rw [← Bool.not_eq_true]
    intro hs
    simp only [isSeparator, Bool.or_eq_true, beq_iff_eq] at hs
    rcases hs with ((rfl | rfl) | rfl) | rfl <;> exact absurd h (by decide)
  all_goals rintro rfl; exact absurd h (by decide)

theorem scan_bare_safe {word : List Char} (h : word.all isSafe = true) (rest : List Char) :
    scan .bare (word ++ rest) = (scan .bare rest).map (Tail.pushAll word) := by
  induction word with
  | nil => cases hs : scan .bare rest <;> simp [Except.map, hs, Tail.pushAll]
  | cons c word ih =>
    simp only [List.all_cons, Bool.and_eq_true] at h
    obtain ⟨hs, hq, hd, hb⟩ := isSafe_plain h.1
    rw [List.cons_append, scan_bare_plain hs hq hd hb, ih h.2, map_map]
    rfl

/-- A single quote in a word leaves the quotes and enters them again. -/
theorem scan_single_escapeSingle (c : Char) (rest : List Char) :
    scan .single (escapeSingle c ++ rest) = (scan .single rest).map (Tail.push c) := by
  unfold escapeSingle
  split
  · next h =>
    subst h
    have hd : scan .double ('\'' :: '"' :: '\'' :: rest) =
        (scan .single rest).map fun t => (t.start).push '\'' := by
      rw [scan_double_plain (by decide) (by decide), scan_double_doubleQuote, scan_bare_quote,
        map_map]
      rfl
    simp only [List.cons_append, List.nil_append, scan_single_quote, scan_bare_doubleQuote, hd,
      map_map]
    rfl
  · next h => simp [scan_single_plain h]

theorem scan_single_quoted (word rest : List Char) :
    scan .single (word.flatMap escapeSingle ++ '\'' :: rest) =
      (scan .bare rest).map (Tail.pushAll word) := by
  induction word with
  | nil => cases hs : scan .bare rest <;> simp [Except.map, hs, Tail.pushAll]
  | cons c word ih =>
    rw [List.flatMap_cons, List.append_assoc, scan_single_escapeSingle, ih, map_map]
    rfl

/-- Is read as `word`, whatever follows. -/
def ReadsAs (text word : List Char) : Prop :=
  ∀ rest, scan .bare (text ++ rest) = (scan .bare rest).map fun t => (t.pushAll word).start

theorem readsAs_quoteWord (word : List Char) : ReadsAs (quoteWord word) word := by
  intro rest
  unfold quoteWord
  split
  · next h =>
    rw [scan_bare_safe h.2]
    obtain ⟨c, cs, rfl⟩ := List.exists_cons_of_ne_nil h.1
    rfl
  · simp only [List.cons_append, List.append_assoc, List.nil_append, scan_bare_quote,
      scan_single_quoted, map_map]
    rfl

theorem wordList_intercalate {α : Type} (text word : α → List Char) (items : List α)
    (h : ∀ a ∈ items, ReadsAs (text a) (word a)) :
    wordList ([' '].intercalate (items.map text)) = .ok (items.map word) := by
  unfold wordList
  induction items with
  | nil => rfl
  | cons a rest ih =>
    have ha := h a (by simp)
    have ih := ih fun b hb => h b (List.mem_cons_of_mem _ hb)
    cases rest with
    | nil =>
      have hlast := ha []
      rw [List.append_nil] at hlast
      simp only [List.map_cons, List.map_nil, List.intercalate_singleton, hlast, scan_bare_nil]
      simp [Except.map, Tail.start_pushAll, Tail.nil, Tail.words]
    | cons next rest =>
      rw [List.map_cons, List.intercalate_cons_of_ne_nil (by simp), List.append_assoc, ha,
        List.cons_append, scan_bare_separator (by decide), List.nil_append]
      cases hs : scan .bare ([' '].intercalate ((next :: rest).map text)) with
      | error e => rw [hs] at ih; simp [Except.map] at ih
      | ok t =>
        rw [hs] at ih
        simp only [Except.map, Except.ok.injEq] at ih ⊢
        rw [Tail.words_start_pushAll_separate, ih]
        rfl

theorem wordList_quoteList (words : List (List Char)) : wordList (quoteList words) = .ok words := by
  have h := wordList_intercalate quoteWord id words fun word _ => readsAs_quoteWord word
  rwa [List.map_id] at h

example : quote ["a", "", "it's"] = "a '' 'it'\"'\"'s'" := by decide +kernel

end CompilerCommands.Shell
