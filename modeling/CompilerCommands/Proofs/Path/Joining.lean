import CompilerCommands.Proofs.Path.Spelling
import CompilerCommands.Proofs.Text.Pieces

/-!
# Joined paths

An entry that is put behind a directory as text reads as the path of the entry seen from that
directory, and what a path leads to depends on the directory only through its place.
-/

namespace CompilerCommands.Path

/-! ## Joined texts -/

theorem parts_ofString_append (front back : String) :
    (ofString (front ++ "/" ++ back)).parts = (ofString front).parts ++ (ofString back).parts := by
  have hchars : (front ++ "/" ++ back).toList = front.toList ++ '/' :: back.toList := by simp
  simp only [ofString, hchars, Text.splitOn_append_cons, List.filter_append, List.map_append]

/-- A text does not change the root of the text before it, unless all of that is slashes and more of
them follow. -/
theorem ofChars_append {front back : List Char}
    (h : (∃ c ∈ front, c ≠ '/') ∨ back.head? ≠ some '/') :
    PathRoot.ofChars (front ++ back) = PathRoot.ofChars front := by
  have htake : (front ++ back).takeWhile (· == '/') = front.takeWhile (· == '/') := by
    rw [List.takeWhile_append]
    split
    · next hlength =>
      have hself : front.takeWhile (· == '/') = front :=
        (List.takeWhile_prefix _).eq_of_length hlength
      have hback : back.takeWhile (· == '/') = [] := by
        rcases h with ⟨c, hc, hne⟩ | hback
        · have hall : (front.takeWhile (· == '/')).all (· == '/') = true := List.all_takeWhile
          rw [hself, List.all_eq_true] at hall
          exact absurd (eq_of_beq (hall c hc)) hne
        · cases back with
          | nil => rfl
          | cons d rest =>
            have hd : d ≠ '/' := fun hd => hback (by rw [hd]; rfl)
            exact List.takeWhile_cons_of_neg (by simpa using hd)
      rw [hback, List.append_nil, hself]
    · rfl
  rw [PathRoot.ofChars, htake, ← PathRoot.ofChars]

theorem join_of_relative {base p : Path} (h : p.isAbsolute = false) :
    base.join p = ⟨base.root, base.parts ++ p.parts⟩ := by
  rw [join, h]
  rfl

theorem exists_ne_slash {dir : String} (h : ¬(dir.isEmpty || Text.ends "/" dir) = true) :
    ∃ c ∈ dir.toList, c ≠ '/' := by
  rw [Bool.or_eq_true, not_or] at h
  obtain ⟨hempty, hends⟩ := h
  have hne : dir.toList ≠ [] := by simpa using hempty
  refine ⟨dir.toList.getLast hne, List.getLast_mem hne, fun hlast => hends ?_⟩
  refine Text.ends_iff.2 ⟨String.ofList dir.toList.dropLast, String.toList_inj.1 ?_⟩
  have hsplit := List.dropLast_concat_getLast hne
  rw [hlast] at hsplit
  rw [String.toList_append, String.toList_ofList]
  exact hsplit.symm

theorem ofString_joinText (dir entry : String) :
    ofString (joinText dir entry) = (ofString dir).join (ofString entry) := by
  unfold joinText
  by_cases habsolute : Text.begins "/" entry = true
  · rw [if_pos habsolute, join_of_absolute (isAbsolute_ofString_iff.2 habsolute)]
  have hrelative : (ofString entry).isAbsolute = false :=
    Bool.eq_false_iff.2 (mt isAbsolute_ofString_iff.1 habsolute)
  have hhead : entry.toList.head? ≠ some '/' := by
    intro hhead
    obtain ⟨rest, hrest⟩ := List.head?_eq_some_iff.1 hhead
    refine habsolute (Text.begins_iff.2 ⟨String.ofList rest, String.toList_inj.1 ?_⟩)
    simp [hrest]
  rw [if_neg habsolute, join_of_relative hrelative]
  split
  · next hdir =>
    have hroot : (ofString (dir ++ entry)).root = (ofString dir).root := by
      simp only [ofString, String.toList_append]
      exact ofChars_append (.inr hhead)
    have hparts :
        (ofString (dir ++ entry)).parts = (ofString dir).parts ++ (ofString entry).parts := by
      rcases Bool.or_eq_true_iff.1 hdir with hempty | hends
      · rw [String.isEmpty_iff.1 hempty, String.empty_append]
        rfl
      · obtain ⟨front, rfl⟩ := Text.ends_iff.1 hends
        have hnothing : (ofString "").parts = [] := rfl
        have hfront := parts_ofString_append front ""
        rw [String.append_empty, hnothing, List.append_nil] at hfront
        rw [parts_ofString_append, hfront]
    rw [← hroot, ← hparts]
  · next hdir =>
    have hroot : (ofString (dir ++ "/" ++ entry)).root = (ofString dir).root := by
      simp only [ofString, String.toList_append, List.append_assoc]
      exact ofChars_append (.inl (exists_ne_slash hdir))
    rw [← hroot, ← parts_ofString_append]

theorem toString_ne_empty (p : Path) : p.toString ≠ "" := by
  rw [toString_eq]
  split
  · decide
  · next hcs =>
    intro hempty
    have hchars := congrArg String.toList hempty
    rw [String.toList_ofList] at hchars
    exact hcs (by rw [hchars]; rfl)

/-! ## Places -/

theorem normalize_join_congr {a b : Path} (h : a.normalize = b.normalize) (p : Path) :
    (a.join p).normalize = (b.join p).normalize := by
  unfold join
  split
  · rfl
  · obtain ⟨hroot, hparts⟩ := Path.mk.inj h
    rw [hroot, List.reverse_inj] at hparts
    simp only [normalize, List.foldl_append, hroot, hparts]

theorem locate_of_isAbsolute {s : String} (h : (ofString s).isAbsolute = true) (a b : Path) :
    a.locate s = b.locate s := by
  rw [locate, join_of_absolute h, locate, join_of_absolute h]

theorem readable_join {a b : Path} (ha : a.Readable) (hb : b.Readable) : (a.join b).Readable := by
  unfold join
  split
  · exact hb
  · intro part hpart
    exact (List.mem_append.1 hpart).elim (ha part) (hb part)

end CompilerCommands.Path
