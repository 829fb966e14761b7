import CompilerCommands.Proofs.Text.Trim
import CompilerCommands.Text.Lines

/-!
# Lines of joined text

Lines that are joined by line feeds are read back, but for an empty one at the end. A reader that
looks at lines one by one, finds nothing in an empty one and does not look at the white space at the
end of any finds the same in a text without the white space at its end.
-/

namespace CompilerCommands.Text

/-! ## The line that is being read -/

/-- The lines of a text whose first line has begun with `front`. -/
def linesAfter (front cs : List Char) : List (List Char) :=
  match lineList cs with
  | [] => if front = [] then [] else [front]
  | line :: rest => (front ++ line) :: rest

theorem linesAfter_nil_left (cs : List Char) : linesAfter [] cs = lineList cs := by
  unfold linesAfter
  cases lineList cs <;> simp

/-- Ends its line before `rest`; a carriage return leaves that to a line feed after it. -/
def EndsLine (c : Char) (rest : List Char) : Prop :=
  isLineEnd c = true ∧ ¬ (c = '\r' ∧ rest.head? = some '\n')

theorem linesAfter_end {c : Char} {rest : List Char} (h : EndsLine c rest) (front : List Char) :
    linesAfter front (c :: rest) = front :: lineList rest := by
  rw [linesAfter, lineList, if_neg h.2, if_pos h.1]
  simp

theorem linesAfter_crlf {c : Char} {rest : List Char} (h : c = '\r' ∧ rest.head? = some '\n')
    (front : List Char) : linesAfter front (c :: rest) = linesAfter front rest := by
  rw [linesAfter, lineList, if_pos h, linesAfter]

theorem linesAfter_plain {c : Char} (h : isLineEnd c = false) (front rest : List Char) :
    linesAfter front (c :: rest) = linesAfter (front ++ [c]) rest := by
  have hr : ¬ (c = '\r' ∧ rest.head? = some '\n') := by
    rintro ⟨rfl, -⟩
    exact absurd h (by decide)
  rw [linesAfter, lineList, if_neg hr, h, if_neg (by decide), linesAfter]
  cases lineList rest <;> simp [consLine]

/-! ## Joined lines -/

/-- Holds no end of a line. -/
def IsLine (line : List Char) : Prop := ∀ c ∈ line, isLineEnd c = false

instance (line : List Char) : Decidable (IsLine line) :=
  decidable_of_iff ((line.all fun c => !isLineEnd c) = true) (by simp [IsLine])

theorem linesAfter_append {line : List Char} (h : IsLine line) (front rest : List Char) :
    linesAfter front (line ++ rest) = linesAfter (front ++ line) rest := by
  induction line generalizing front with
  | nil => simp
  | cons c line ih =>
    rw [List.cons_append, linesAfter_plain (h c (by simp)),
      ih fun d hd => h d (List.mem_cons_of_mem _ hd)]
    simp

theorem lineList_append_newline {line : List Char} (h : IsLine line) (rest : List Char) :
    lineList (line ++ '\n' :: rest) = line :: lineList rest := by
  rw [← linesAfter_nil_left, linesAfter_append h, List.nil_append,
    linesAfter_end ⟨by decide, by simp⟩]

section Reader

variable {α : Type} {read : List Char → Option α}

theorem filterMap_lineList_intercalate (hnil : read [] = none) {ls : List (List Char)}
    (h : ∀ line ∈ ls, IsLine line) :
    (lineList (['\n'].intercalate ls)).filterMap read = ls.filterMap read := by
  induction ls with
  | nil => rfl
  | cons line rest ih =>
    have hline := h line (by simp)
    cases rest with
    | nil =>
      rw [List.intercalate_singleton]
      by_cases hl : line = []
      · subst hl
        simp [lineList, hnil]
      · rw [lineList_of_no_end hl hline]
    | cons next rest =>
      rw [List.intercalate_cons_cons, List.append_assoc, List.cons_append, List.nil_append,
        lineList_append_newline hline, List.filterMap_cons, List.filterMap_cons,
        ih fun l hl => h l (List.mem_cons_of_mem _ hl)]

/-! ## Text on both sides of a line feed -/

variable (hnil : read [] = none)

include hnil in
theorem filterMap_linesAfter_nil (front : List Char) :
    (linesAfter front []).filterMap read = [front].filterMap read := by
  by_cases hf : front = [] <;> simp [linesAfter, lineList, hf, hnil]

include hnil in
theorem filterMap_linesAfter_append_newline (a b front : List Char) :
    (linesAfter front (a ++ '\n' :: b)).filterMap read =
      (linesAfter front a).filterMap read ++ (lineList b).filterMap read := by
  have hfeed : ∀ front, (linesAfter front ('\n' :: b)).filterMap read =
      [front].filterMap read ++ (lineList b).filterMap read := by
    intro front
    rw [linesAfter_end ⟨by decide, by simp⟩, ← List.filterMap_append, List.singleton_append]
  induction a generalizing front with
  | nil => rw [List.nil_append, hfeed, filterMap_linesAfter_nil hnil]
  | cons c rest ih =>
    rw [List.cons_append]
    cases hc : isLineEnd c with
    | false => rw [linesAfter_plain hc, linesAfter_plain hc, ih]
    | true =>
      by_cases hcr : c = '\r' ∧ rest.head? = some '\n'
      · have hcr' : c = '\r' ∧ (rest ++ '\n' :: b).head? = some '\n' :=
          ⟨hcr.1, by rw [List.head?_append, hcr.2]; rfl⟩
        rw [linesAfter_crlf hcr, linesAfter_crlf hcr', ih]
      rw [linesAfter_end ⟨hc, hcr⟩]
      by_cases hcr' : c = '\r' ∧ (rest ++ '\n' :: b).head? = some '\n'
      · -- the line feed is the second half of an end whose carriage return stands before it
        obtain rfl : rest = [] := by
          cases rest with
          | nil => rfl
          | cons d rest => exact absurd ⟨hcr'.1, hcr'.2⟩ hcr
        rw [linesAfter_crlf hcr', List.nil_append, hfeed]
        rfl
      · rw [linesAfter_end ⟨hc, hcr'⟩, List.filterMap_cons, List.filterMap_cons,
          ← linesAfter_nil_left, ih, linesAfter_nil_left]
        cases read front <;> rfl

include hnil in
/-- What is read before a line feed does not depend on what stands behind it, and the other way
round. -/
theorem filterMap_lineList_append_newline (a b : List Char) :
    (lineList (a ++ '\n' :: b)).filterMap read =
      (lineList a).filterMap read ++ (lineList b).filterMap read := by
  have hread := filterMap_linesAfter_append_newline hnil a b []
  rwa [linesAfter_nil_left, linesAfter_nil_left] at hread

/-! ## White space at the end -/

variable (hend : ∀ line, read (dropEndWhile isBlank line) = read line)

include hend in
theorem read_concat_blank {b : Char} (hb : isBlank b = true) (line : List Char) :
    read (line ++ [b]) = read line := by
  rw [← hend (line ++ [b]), dropEndWhile_append_of_pos hb, hend]

include hnil hend in
theorem filterMap_linesAfter_concat {b : Char} (hb : isBlank b = true) (cs front : List Char) :
    (linesAfter front (cs ++ [b])).filterMap read = (linesAfter front cs).filterMap read := by
  induction cs generalizing front with
  | nil =>
    rw [List.nil_append, filterMap_linesAfter_nil hnil]
    cases he : isLineEnd b with
    | true => rw [linesAfter_end ⟨he, by simp⟩]; rfl
    | false =>
      rw [linesAfter_plain he, filterMap_linesAfter_nil hnil, List.filterMap_cons,
        List.filterMap_cons, read_concat_blank hend hb]
  | cons c rest ih =>
    rw [List.cons_append]
    cases hc : isLineEnd c with
    | false => rw [linesAfter_plain hc, linesAfter_plain hc, ih]
    | true =>
      by_cases hcr : c = '\r' ∧ rest.head? = some '\n'
      · have hcr' : c = '\r' ∧ (rest ++ [b]).head? = some '\n' :=
          ⟨hcr.1, by rw [List.head?_append, hcr.2]; rfl⟩
        rw [linesAfter_crlf hcr, linesAfter_crlf hcr', ih]
      rw [linesAfter_end ⟨hc, hcr⟩]
      by_cases hcr' : c = '\r' ∧ (rest ++ [b]).head? = some '\n'
      · -- the added character is the line feed after a carriage return at the end
        obtain rfl : rest = [] := by
          cases rest with
          | nil => rfl
          | cons d rest => exact absurd ⟨hcr'.1, hcr'.2⟩ hcr
        obtain rfl : b = '\n' := by simpa using hcr'.2
        rw [linesAfter_crlf hcr', List.nil_append, linesAfter_end ⟨by decide, by simp⟩]
      · rw [linesAfter_end ⟨hc, hcr'⟩, List.filterMap_cons, List.filterMap_cons,
          ← linesAfter_nil_left, ih, linesAfter_nil_left]

include hnil hend in
theorem filterMap_lineList_append_blank {blanks : List Char}
    (hb : ∀ c ∈ blanks, isBlank c = true) (cs : List Char) :
    (lineList (cs ++ blanks)).filterMap read = (lineList cs).filterMap read := by
  induction blanks generalizing cs with
  | nil => rw [List.append_nil]
  | cons b rest ih =>
    have hconcat := filterMap_linesAfter_concat hnil hend (hb b (by simp)) cs []
    rw [linesAfter_nil_left, linesAfter_nil_left] at hconcat
    rw [List.append_cons, ih fun c hc => hb c (List.mem_cons_of_mem _ hc), hconcat]

include hnil hend in
theorem filterMap_lineList_dropEndWhile (cs : List Char) :
    (lineList (dropEndWhile isBlank cs)).filterMap read = (lineList cs).filterMap read := by
  obtain ⟨rest, hcs, hrest⟩ := exists_eq_dropEndWhile_append isBlank cs
  conv_rhs => rw [hcs, filterMap_lineList_append_blank hnil hend hrest]

end Reader

end CompilerCommands.Text
