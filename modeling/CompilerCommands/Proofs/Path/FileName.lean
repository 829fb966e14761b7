import CompilerCommands.Path.Windows
import CompilerCommands.Proofs.Text.Pieces
import Mathlib.Data.List.DropRight

/-!
# The name of a file

The name that a path ends in is what stands behind its last separator, whatever stands before it:
drives, roots and other directories are no part of it.
-/

namespace CompilerCommands

open Text (lastPiece)

theorem getLast?_filter_splitOn {sep : Char} {cs : List Char} {p : List Char → Bool}
    (h : p (lastPiece sep cs) = true) :
    ((cs.splitOn sep).filter p).getLast? = some (lastPiece sep cs) := by
  obtain ⟨pieces, hsplit⟩ := Text.exists_splitOn_eq sep cs
  rw [hsplit, List.filter_append, List.filter_cons_of_pos h, List.filter_nil, List.getLast?_concat]

theorem Path.name_ofString {s : String} (h : isComponent (lastPiece '/' s.toList) = true) :
    (ofString s).name = String.ofList (lastPiece '/' s.toList) := by
  rw [name, ofString, List.getLast?_map, getLast?_filter_splitOn h]
  rfl

namespace WindowsPath

def HasShareMark (cs : List Char) : Prop := ['\\', '\\'] <+: cs

instance (cs : List Char) : Decidable (HasShareMark cs) := inferInstanceAs (Decidable (_ <+: _))

theorem hasShareMark_append_cons {cs name : List Char} (h : '\\' ∉ name) :
    HasShareMark (cs ++ '\\' :: name) ↔ HasShareMark (cs ++ ['\\']) := by
  have hname : ¬['\\'] <+: name := fun hstart => h (hstart.subset List.mem_cons_self)
  match cs with
  | [] => simp [HasShareMark, hname]
  | [c] => simp [HasShareMark]
  | c :: d :: rest => simp [HasShareMark]

theorem dropExtendedMark_eq {cs : List Char} (h : ¬HasShareMark cs) :
    dropExtendedMark cs = cs := by
  have hmark : "\\\\?\\".toList = ['\\', '\\'] ++ ['?', '\\'] := by decide
  have hnone : "\\\\?\\".toList.isPrefixOf? cs = none := by
    refine Option.eq_none_iff_forall_ne_some.2 fun rest hrest => h ?_
    rw [List.isPrefixOf?_eq_some_iff_append_eq, hmark, List.append_assoc] at hrest
    exact ⟨_, hrest⟩
  rw [dropExtendedMark, hnone]

theorem afterShare?_eq_none {cs : List Char} (h : ¬HasShareMark cs) : afterShare? cs = none := by
  unfold afterShare?
  split
  · next rest => exact absurd ⟨rest, rfl⟩ h
  · rfl

theorem lastPiece_dropDrive {cs : List Char} (h : ':' ∉ lastPiece '\\' cs) :
    lastPiece '\\' (dropDrive cs) = lastPiece '\\' cs := by
  unfold dropDrive
  split
  · next letter rest =>
    split
    · next hletter =>
      by_cases hrest : '\\' ∈ rest
      · rw [Text.lastPiece_cons_of_mem (List.mem_cons_of_mem _ hrest),
          Text.lastPiece_cons_of_mem hrest]
      · have hnone : '\\' ∉ letter :: ':' :: rest := by
          simp only [List.mem_cons, not_or]
          refine ⟨?_, by decide, hrest⟩
          rintro rfl
          exact absurd hletter (by decide)
        rw [Text.lastPiece_of_not_mem hnone] at h
        simp at h
    · rfl
  · rfl

theorem lastPiece_dropWhile (sep : Char) (cs : List Char) :
    lastPiece sep (cs.dropWhile (· == sep)) = lastPiece sep cs := by
  induction cs with
  | nil => rfl
  | cons c rest ih =>
    by_cases hc : c = sep
    · rw [List.dropWhile_cons_of_pos (by simpa using hc), ih, hc]
      exact (Text.lastPiece_append_cons sep [] rest).symm
    · rw [List.dropWhile_cons_of_neg (by simpa using hc)]

/-- Without a share, the name is what stands behind the last backslash. -/
theorem name_eq {s : String} (hshare : ¬HasShareMark s.toList)
    (hcolon : ':' ∉ lastPiece '\\' s.toList)
    (h : Path.isComponent (lastPiece '\\' s.toList) = true) :
    name s = String.ofList (lastPiece '\\' s.toList) := by
  have hlast : lastPiece '\\' ((dropDrive s.toList).dropWhile (· == '\\')) =
      lastPiece '\\' s.toList := by
    rw [lastPiece_dropWhile, lastPiece_dropDrive hcolon]
  rw [name, components, dropExtendedMark_eq hshare, afterShare?_eq_none hshare]
  simp only
  rw [getLast?_filter_splitOn (by rw [hlast]; exact h), hlast, Option.getD_some]

end WindowsPath

end CompilerCommands
