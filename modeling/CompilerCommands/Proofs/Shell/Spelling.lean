import CompilerCommands.Proofs.Shell.Grammar
import CompilerCommands.Proofs.Text.Lines
import CompilerCommands.Shell.Quote

/-!
# Spellings of a word

A word can be put between double quotes, with a backslash before each double quote and each
backslash, or be written as `quoteWord` writes it. Either way it is read back, its text has no white
space at its ends, and it breaks no line that the word does not break.
-/

namespace CompilerCommands.Shell

/-! ## Double quotes -/

def escapeDouble (c : Char) : List Char := if c = '"' ∨ c = '\\' then ['\\', c] else [c]

def doubleQuote (word : List Char) : List Char := '"' :: word.flatMap escapeDouble ++ ['"']

theorem quotedItem_escapeDouble (c : Char) : QuotedItem (escapeDouble c) [c] := by
  unfold escapeDouble
  split
  · next h => exact .escaped h
  · next h => exact .plain h

theorem quotedText_flatMap (word : List Char) : QuotedText (word.flatMap escapeDouble) word := by
  induction word with
  | nil => exact .nil
  | cons c word ih => exact .cons (quotedItem_escapeDouble c) ih

theorem readsAs_doubleQuote (word : List Char) : ReadsAs (doubleQuote word) word :=
  (Segment.double (quotedText_flatMap word)).readsAs

/-! ## Spelled words -/

inductive Spelling where
  | shell
  | double
  deriving DecidableEq, Repr

structure SpelledWord where
  word : String
  spelling : Spelling
  deriving DecidableEq, Repr

namespace SpelledWord

def text (w : SpelledWord) : List Char :=
  match w.spelling with
  | .shell => quoteWord w.word.toList
  | .double => doubleQuote w.word.toList

def line (words : List SpelledWord) : List Char := [' '].intercalate (words.map text)

theorem readsAs_text (w : SpelledWord) : ReadsAs w.text w.word.toList := by
  unfold text
  split
  · exact readsAs_quoteWord _
  · exact readsAs_doubleQuote _

theorem wordList_line (words : List SpelledWord) :
    wordList (line words) = .ok (words.map (·.word.toList)) :=
  wordList_intercalate text (·.word.toList) words fun w _ => w.readsAs_text

end SpelledWord

/-! ## Ends of a text -/

/-- What a written word begins and ends with. -/
def isEdge (c : Char) : Bool := isSafe c || c == '\'' || c == '"'

theorem toNat_of_isAlphanum {c : Char} (h : c.isAlphanum = true) :
    0x30 ≤ c.toNat ∧ c.toNat ≤ 0x7A := by
  have hranges : ((decide ('A'.val ≤ c.val ∧ c.val ≤ 'Z'.val) ||
      (decide ('a'.val ≤ c.val) && decide (c.val ≤ 'z'.val))) ||
      (decide ('0'.val ≤ c.val) && decide (c.val ≤ '9'.val))) = true := h
  simp only [Bool.or_eq_true, Bool.and_eq_true, decide_eq_true_eq, UInt32.le_iff_toNat_le]
    at hranges
  change ((0x41 ≤ c.toNat ∧ c.toNat ≤ 0x5A) ∨ (0x61 ≤ c.toNat ∧ c.toNat ≤ 0x7A)) ∨
    (0x30 ≤ c.toNat ∧ c.toNat ≤ 0x39) at hranges
  omega

theorem toNat_of_isEdge {c : Char} (h : isEdge c = true) : 0x21 ≤ c.toNat ∧ c.toNat ≤ 0x7A := by
  simp only [isEdge, isSafe, Bool.or_eq_true, beq_iff_eq, List.contains_iff_mem] at h
  rcases h with ((h | h) | rfl) | rfl
  · have := toNat_of_isAlphanum h
    omega
  · have hall : ("_@%+=:,./-".toList.all fun d => 0x21 ≤ d.toNat ∧ d.toNat ≤ 0x7A) = true := by
      decide
    exact of_decide_eq_true (List.all_eq_true.1 hall c h)
  · decide
  · decide

theorem not_isBlank_of_isEdge {c : Char} (h : isEdge c = true) : Text.isBlank c = false := by
  have := toNat_of_isEdge h
  simp only [Text.isBlank, Bool.or_eq_false_iff, decide_eq_false_iff_not, beq_eq_false_iff_ne]
  omega

/-- Begins and ends as written words do. -/
structure Edged (cs : List Char) : Prop where
  head : ∃ c ∈ cs.head?, isEdge c = true
  last : ∃ c ∈ cs.getLast?, isEdge c = true

namespace Edged

variable {a b : List Char}

theorem ne_nil (h : Edged a) : a ≠ [] := by
  rintro rfl
  obtain ⟨c, hc, -⟩ := h.head
  cases hc

theorem trimmed (h : Edged a) : Text.Trimmed Text.isBlank a where
  head c hc := by
    obtain ⟨d, hd, he⟩ := h.head
    obtain rfl : d = c := Option.some.inj (hd.symm.trans hc)
    exact not_isBlank_of_isEdge he
  last c hc := by
    obtain ⟨d, hd, he⟩ := h.last
    obtain rfl : d = c := Option.some.inj (hd.symm.trans hc)
    exact not_isBlank_of_isEdge he

theorem of_all (hne : a ≠ []) (h : ∀ c ∈ a, isEdge c = true) : Edged a :=
  ⟨⟨a.head hne, List.head?_eq_some_head hne, h _ (List.head_mem hne)⟩,
    ⟨a.getLast hne, List.getLast?_eq_some_getLast hne, h _ (List.getLast_mem hne)⟩⟩

theorem between {q : Char} (hq : isEdge q = true) (cs : List Char) : Edged (q :: cs ++ [q]) :=
  ⟨⟨q, rfl, hq⟩, ⟨q, List.getLast?_concat, hq⟩⟩

theorem append (ha : Edged a) (hb : Edged b) (sep : List Char) : Edged (a ++ sep ++ b) := by
  obtain ⟨c, hc, hce⟩ := ha.head
  obtain ⟨d, hd, hde⟩ := hb.last
  refine ⟨⟨c, ?_, hce⟩, ⟨d, ?_, hde⟩⟩
  · rw [List.append_assoc, List.head?_append, hc]
    rfl
  · rw [List.getLast?_append, hd]
    rfl

end Edged

namespace SpelledWord

theorem edged_text (w : SpelledWord) : Edged w.text := by
  unfold text
  split
  · unfold quoteWord
    split
    · next h =>
      refine Edged.of_all h.1 fun c hc => ?_
      rw [isEdge, List.all_eq_true.1 h.2 c hc]
      rfl
    · exact Edged.between (by decide) _
  · exact Edged.between (by decide) _

theorem edged_line {words : List SpelledWord} (h : words ≠ []) : Edged (line words) := by
  unfold line
  induction words with
  | nil => exact absurd rfl h
  | cons w rest ih =>
    cases rest with
    | nil => simpa using w.edged_text
    | cons next rest =>
      rw [List.map_cons, List.intercalate_cons_of_ne_nil (by simp)]
      exact w.edged_text.append (ih (by simp)) [' ']

/-! ## Lines -/

theorem isLine_between {q : Char} (hq : Text.isLineEnd q = false) {escape : Char → List Char}
    (he : ∀ c, ∀ d ∈ escape c, d = c ∨ Text.isLineEnd d = false) {word : List Char}
    (h : Text.IsLine word) : Text.IsLine (q :: word.flatMap escape ++ [q]) := by
  intro d hd
  simp only [List.cons_append, List.mem_cons, List.mem_append, List.mem_flatMap,
    List.not_mem_nil, or_false] at hd
  rcases hd with rfl | ⟨c, hc, hdc⟩ | rfl
  · exact hq
  · rcases he c d hdc with rfl | hd
    · exact h d hc
    · exact hd
  · exact hq

theorem isLine_text {w : SpelledWord} (h : Text.IsLine w.word.toList) : Text.IsLine w.text := by
  unfold text
  split
  · unfold quoteWord
    split
    · exact h
    · refine isLine_between (by decide) (fun c d hd => ?_) h
      unfold escapeSingle at hd
      split at hd
      · have hquote : Text.IsLine ['\'', '"', '\'', '"', '\''] := by decide
        exact .inr (hquote d hd)
      · exact .inl (List.mem_singleton.1 hd)
  · refine isLine_between (by decide) (fun c d hd => ?_) h
    unfold escapeDouble at hd
    split at hd
    · rcases List.mem_cons.1 hd with rfl | hd
      · exact .inr (by decide)
      · exact .inl (List.mem_singleton.1 hd)
    · exact .inl (List.mem_singleton.1 hd)

theorem isLine_line {words : List SpelledWord}
    (h : ∀ w ∈ words, Text.IsLine w.word.toList) : Text.IsLine (line words) := by
  unfold line
  induction words with
  | nil => simp [Text.IsLine]
  | cons w rest ih =>
    have hw := isLine_text (h w (by simp))
    cases rest with
    | nil => simpa using hw
    | cons next rest =>
      rw [List.map_cons, List.intercalate_cons_of_ne_nil (by simp)]
      intro c hc
      rcases List.mem_append.1 hc with hc | hc
      · rcases List.mem_append.1 hc with hc | hc
        · exact hw c hc
        · rw [List.mem_singleton.1 hc]
          decide
      · exact ih (fun v hv => h v (List.mem_cons_of_mem _ hv)) c hc

end SpelledWord

end CompilerCommands.Shell
