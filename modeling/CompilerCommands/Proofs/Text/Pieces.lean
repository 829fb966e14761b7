import CompilerCommands.Text.Basic

/-!
# Pieces between separators

A text is cut at each separator by itself, so a separator between two texts keeps their pieces
apart.
-/

namespace CompilerCommands.Text

theorem splitOn_of_not_mem {sep : Char} {cs : List Char} (h : sep ∉ cs) :
    cs.splitOn sep = [cs] := by
  refine List.splitOnP_eq_singleton fun c hc => ?_
  rw [beq_eq_false_iff_ne]
  rintro rfl
  exact h hc

theorem splitOn_append_cons (sep : Char) (front back : List Char) :
    (front ++ sep :: back).splitOn sep = front.splitOn sep ++ back.splitOn sep :=
  List.splitOnP_append_cons front back (beq_self_eq_true sep)

theorem splitOn_append_cons_of_not_mem {sep : Char} {front : List Char} (h : sep ∉ front)
    (back : List Char) : (front ++ sep :: back).splitOn sep = front :: back.splitOn sep := by
  rw [splitOn_append_cons, splitOn_of_not_mem h, List.singleton_append]

theorem eq_flatMap_append_of_splitOn {sep : Char} {cs last : List Char}
    (pieces : List (List Char)) (h : cs.splitOn sep = pieces ++ [last]) :
    cs = pieces.flatMap (· ++ [sep]) ++ last := by
  have hcs : cs = [sep].intercalate (pieces ++ [last]) := by rw [← h, List.intercalate_splitOn]
  rw [hcs]
  clear h hcs
  induction pieces with
  | nil => rw [List.nil_append, List.intercalate_singleton, List.flatMap_nil, List.nil_append]
  | cons piece rest ih =>
    obtain ⟨next, others, hnext⟩ := List.exists_cons_of_ne_nil
      (List.append_ne_nil_of_right_ne_nil rest (List.cons_ne_nil last []))
    rw [List.cons_append, hnext, List.intercalate_cons_cons, ← hnext, ih, List.flatMap_cons,
      List.append_assoc, List.append_assoc, List.append_assoc]

/-! ## The last piece -/

/-- What stands behind the last separator of a text, or all of it. -/
def lastPiece (sep : Char) (cs : List Char) : List Char := ((cs.splitOn sep).getLast?).getD []

theorem exists_splitOn_eq (sep : Char) (cs : List Char) :
    ∃ pieces, cs.splitOn sep = pieces ++ [lastPiece sep cs] := by
  have hne := List.splitOn_ne_nil sep cs
  refine ⟨(cs.splitOn sep).dropLast, ?_⟩
  rw [lastPiece, List.getLast?_eq_some_getLast hne, Option.getD_some,
    List.dropLast_concat_getLast hne]

theorem lastPiece_of_not_mem {sep : Char} {cs : List Char} (h : sep ∉ cs) :
    lastPiece sep cs = cs := by
  rw [lastPiece, splitOn_of_not_mem h]
  rfl

theorem lastPiece_append_cons (sep : Char) (front back : List Char) :
    lastPiece sep (front ++ sep :: back) = lastPiece sep back := by
  obtain ⟨pieces, hsplit⟩ := exists_splitOn_eq sep back
  rw [lastPiece, splitOn_append_cons, hsplit, ← List.append_assoc, List.getLast?_concat,
    Option.getD_some]

theorem lastPiece_cons_of_mem {sep c : Char} {cs : List Char} (h : sep ∈ cs) :
    lastPiece sep (c :: cs) = lastPiece sep cs := by
  obtain ⟨front, back, rfl⟩ := List.append_of_mem h
  rw [← List.cons_append, lastPiece_append_cons, lastPiece_append_cons]

theorem lastPiece_append {sep : Char} {back : List Char} (h : sep ∉ back) (front : List Char) :
    lastPiece sep (front ++ back) = lastPiece sep front ++ back := by
  have hnone : ∀ {cs : List Char}, sep ∉ cs → lastPiece sep (cs ++ back) = cs ++ back := by
    intro cs hcs
    exact lastPiece_of_not_mem (by simp [hcs, h])
  induction front with
  | nil => rw [hnone List.not_mem_nil, lastPiece_of_not_mem List.not_mem_nil]
  | cons c front ih =>
    by_cases hfront : sep ∈ front
    · rw [List.cons_append, lastPiece_cons_of_mem (List.mem_append_left back hfront), ih,
        lastPiece_cons_of_mem hfront]
    by_cases hc : c = sep
    · -- the only separator stands at the beginning
      have hlast := lastPiece_append_cons sep []
      rw [hc, List.cons_append, ← List.nil_append (sep :: (front ++ back)), hlast, hnone hfront,
        ← List.nil_append (sep :: front), hlast, lastPiece_of_not_mem hfront]
    · have hcons : sep ∉ c :: front := by simp [Ne.symm hc, hfront]
      rw [hnone hcons, lastPiece_of_not_mem hcons]

end CompilerCommands.Text
