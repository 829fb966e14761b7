import CompilerCommands.Text.Blank
import Mathlib.Data.List.DropRight

/-!
# Trimmed text

What `trim` leaves neither begins nor ends with a character that it drops, and it drops nothing from
such a text. `dropEndWhile` goes through a text from its end, a line at a time if need be.
-/

namespace CompilerCommands.Text

variable {p : Char → Bool} {cs : List Char}

theorem dropEndWhile_eq_rdropWhile (p : Char → Bool) (cs : List Char) :
    dropEndWhile p cs = cs.rdropWhile p := rfl

/-- Begins and ends with characters that are kept. -/
structure Trimmed (p : Char → Bool) (cs : List Char) : Prop where
  head : ∀ c ∈ cs.head?, p c = false
  last : ∀ c ∈ cs.getLast?, p c = false

theorem dropWhile_of_head? (h : ∀ c ∈ cs.head?, p c = false) : cs.dropWhile p = cs := by
  cases cs with
  | nil => rfl
  | cons c rest => exact List.dropWhile_cons_of_neg (by simp [h c rfl])

theorem dropEndWhile_of_getLast? (h : ∀ c ∈ cs.getLast?, p c = false) :
    dropEndWhile p cs = cs := by
  rw [dropEndWhile, dropWhile_of_head? (by simpa using h), List.reverse_reverse]

theorem Trimmed.trim_eq (h : Trimmed p cs) : trim p cs = cs := by
  rw [trim, dropWhile_of_head? h.head, dropEndWhile_of_getLast? h.last]

theorem head?_dropWhile (p : Char → Bool) (cs : List Char) :
    ∀ c ∈ (cs.dropWhile p).head?, p c = false := by
  intro c hc
  have h := List.head?_dropWhile_not p cs
  rw [hc] at h
  exact h

theorem getLast?_dropEndWhile (p : Char → Bool) (cs : List Char) :
    ∀ c ∈ (dropEndWhile p cs).getLast?, p c = false := by
  intro c hc
  rw [dropEndWhile, List.getLast?_reverse] at hc
  exact head?_dropWhile p cs.reverse c hc

theorem dropEndWhile_initial (p : Char → Bool) (cs : List Char) : dropEndWhile p cs <+: cs :=
  List.rdropWhile_prefix p cs

theorem head?_dropEndWhile {c : Char} (h : c ∈ (dropEndWhile p cs).head?) : c ∈ cs.head? := by
  obtain ⟨rest, hr⟩ := dropEndWhile_initial p cs
  rw [← hr, List.head?_append]
  simp_all

theorem trimmed_trim (p : Char → Bool) (cs : List Char) : Trimmed p (trim p cs) where
  head c hc := head?_dropWhile p cs c (head?_dropEndWhile hc)
  last := getLast?_dropEndWhile p _

theorem trim_trim (p : Char → Bool) (cs : List Char) : trim p (trim p cs) = trim p cs :=
  (trimmed_trim p cs).trim_eq

theorem trim_subset (p : Char → Bool) (cs : List Char) : trim p cs ⊆ cs :=
  List.Subset.trans (dropEndWhile_initial p _).subset (List.dropWhile_subset p)

theorem dropEndWhile_append (p : Char → Bool) (a b : List Char) :
    dropEndWhile p (a ++ b) =
      if dropEndWhile p b = [] then dropEndWhile p a else a ++ dropEndWhile p b := by
  simp only [dropEndWhile, List.reverse_append, List.dropWhile_append, List.isEmpty_iff,
    List.reverse_eq_nil_iff]
  split <;> simp

theorem dropEndWhile_eq_nil {b : List Char} (h : ∀ c ∈ b, p c = true) : dropEndWhile p b = [] :=
  List.rdropWhile_eq_nil_iff.2 h

theorem exists_eq_dropEndWhile_append (p : Char → Bool) (cs : List Char) :
    ∃ rest, cs = dropEndWhile p cs ++ rest ∧ ∀ c ∈ rest, p c = true := by
  refine ⟨cs.rtakeWhile p, ?_, fun c hc => List.mem_rtakeWhile_imp hc⟩
  rw [dropEndWhile_eq_rdropWhile, List.rdropWhile_append_rtakeWhile]

theorem trim_append_of_dropped {a b : List Char} (h : ∀ c ∈ b, p c = true) :
    trim p (a ++ b) = trim p a := by
  unfold trim
  rw [List.dropWhile_append]
  split
  · next ha =>
    rw [List.isEmpty_iff.1 ha, List.dropWhile_eq_nil_iff.2 h]
  · rw [dropEndWhile_append, if_pos (dropEndWhile_eq_nil h)]

/-! ## White space -/

theorem toList_strip (s : String) : (strip s).toList = trim isBlank s.toList := by simp [strip]

theorem strip_strip (s : String) : strip (strip s) = strip s := by
  rw [strip, toList_strip, trim_trim, ← strip]

theorem strip_append_of_blank (s : String) {blanks : String}
    (h : ∀ c ∈ blanks.toList, isBlank c = true) : strip (s ++ blanks) = strip s := by
  rw [strip, String.toList_append, trim_append_of_dropped h, ← strip]

theorem strip_of_trimmed {s : String} (h : Trimmed isBlank s.toList) : strip s = s := by
  rw [strip, h.trim_eq, String.ofList_toList]

end CompilerCommands.Text
