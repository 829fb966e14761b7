import CompilerCommands.Path.Posix

/-!
# How a path is spelled

A path that has been read is written as a text that reads as the same path, so it names the same
place from any directory. Only the spelling is lost: a text may have a slash where its path has
none.
-/

namespace CompilerCommands

namespace Path

/-- Every component names something and has no slash in it. -/
def Readable (p : Path) : Prop :=
  ∀ part ∈ p.parts, isComponent part.toList = true ∧ '/' ∉ part.toList

theorem readable_ofString (s : String) : (ofString s).Readable := by
  intro part hpart
  obtain ⟨piece, hpiece, rfl⟩ := List.mem_map.1 hpart
  obtain ⟨hsplit, hcomponent⟩ := List.mem_filter.1 hpiece
  rw [String.toList_ofList]
  exact ⟨hcomponent, Text.not_mem_of_mem_splitOn hsplit⟩

/-! ## The components as they are written -/

def body (p : Path) : List Char := ['/'].intercalate (p.parts.map String.toList)

theorem toString_eq (p : Path) :
    p.toString = if (p.root.text ++ p.body).isEmpty then "."
      else String.ofList (p.root.text ++ p.body) :=
  rfl

section

variable {p : Path} (h : p.Readable)

include h

theorem filter_splitOn_body :
    (p.body.splitOn '/').filter isComponent = p.parts.map String.toList := by
  cases hparts : p.parts with
  | nil =>
    rw [body, hparts]
    rfl
  | cons part others =>
    have hsplit : p.body.splitOn '/' = p.parts.map String.toList := by
      refine List.splitOn_intercalate '/' ?_ (by simp [hparts])
      intro piece hpiece
      obtain ⟨part, hpart, rfl⟩ := List.mem_map.1 hpiece
      exact (h part hpart).2
    rw [hsplit, ← hparts, List.filter_eq_self]
    intro piece hpiece
    obtain ⟨part, hpart, rfl⟩ := List.mem_map.1 hpiece
    exact (h part hpart).1

theorem body_cases : p.parts = [] ∧ p.body = [] ∨
    ∃ c rest, p.body = c :: rest ∧ c ≠ '/' := by
  cases hparts : p.parts with
  | nil => exact .inl ⟨rfl, by rw [body, hparts]; rfl⟩
  | cons part others =>
    right
    obtain ⟨hcomponent, hslash⟩ := h part (by simp [hparts])
    cases hpart : part.toList with
    | nil =>
      rw [hpart] at hcomponent
      cases hcomponent
    | cons c rest =>
      rw [hpart, List.mem_cons, not_or] at hslash
      have hbody : ∃ tail, p.body = part.toList ++ tail := by
        rw [body, hparts]
        cases others with
        | nil => exact ⟨[], by simp⟩
        | cons next others => exact ⟨_, by rw [List.map_cons, List.map_cons,
            List.intercalate_cons_cons, List.append_assoc]⟩
      obtain ⟨tail, htail⟩ := hbody
      exact ⟨c, rest ++ tail, by rw [htail, hpart]; rfl, Ne.symm hslash.1⟩

theorem takeWhile_body : p.body.takeWhile (· == '/') = [] := by
  obtain ⟨-, hbody⟩ | ⟨c, rest, hbody, hc⟩ := body_cases h
  · rw [hbody]
    rfl
  · rw [hbody, List.takeWhile_cons_of_neg (by simpa using hc)]

theorem ofChars_text_body : PathRoot.ofChars (p.root.text ++ p.body) = p.root := by
  have hbody := takeWhile_body h
  cases hroot : p.root <;> simp [PathRoot.ofChars, PathRoot.text, hbody]

theorem filter_splitOn_text_body :
    ((p.root.text ++ p.body).splitOn '/').filter isComponent = p.parts.map String.toList := by
  have hslash : ∀ cs : List Char, (('/' :: cs).splitOn '/').filter isComponent =
      (cs.splitOn '/').filter isComponent := by
    intro cs
    rw [List.splitOn_cons_eq_if_modifyHead, if_pos (beq_self_eq_true _),
      List.filter_cons_of_neg (by decide)]
  rw [← filter_splitOn_body h]
  cases p.root with
  | relative => rfl
  | single => exact hslash p.body
  | double => exact (hslash _).trans (hslash p.body)

theorem ofString_toString : ofString p.toString = p := by
  rw [toString_eq]
  split
  · next hempty =>
    -- only the relative path without components is written as a dot
    have hnil : p.root.text = [] ∧ p.body = [] := by simpa using hempty
    obtain ⟨hparts, -⟩ | ⟨c, rest, hbody, -⟩ := body_cases h
    · have hroot : p.root = .relative := by
        cases hp : p.root <;> simp [hp, PathRoot.text] at hnil ⊢
      obtain ⟨root, parts⟩ := p
      obtain rfl : root = .relative := hroot
      obtain rfl : parts = [] := hparts
      decide +kernel
    · rw [hbody] at hnil
      cases hnil.2
  · rw [ofString, String.toList_ofList, ofChars_text_body h, filter_splitOn_text_body h]
    simp

end

/-! ## Places -/

/-- Reading a text as a path and writing it again changes only its spelling: it names the same place
from any directory. -/
theorem locate_toString_ofString (dir : Path) (s : String) :
    dir.locate (ofString s).toString = dir.locate s := by
  rw [locate, ofString_toString (readable_ofString s), locate]

theorem locate_toString_of_isAbsolute {p : Path} (h : p.Readable) (habs : p.isAbsolute = true)
    (dir other : Path) : dir.locate p.toString = other.locate p.toString := by
  rw [locate, locate, ofString_toString h, join_of_absolute habs, join_of_absolute habs]

theorem slash_mem_toString_iff {p : Path} (h : p.Readable) :
    '/' ∈ p.toString.toList ↔ p.isAbsolute = true ∨ 1 < p.parts.length := by
  have hbody : '/' ∈ p.body ↔ 1 < p.parts.length := by
    unfold body
    match hparts : p.parts with
    | [] => simp
    | [part] =>
      have hpart := (h part (by simp [hparts])).2
      simpa using hpart
    | part :: next :: others => simp [List.intercalate_cons_cons]
  have htext : '/' ∈ p.root.text ↔ p.isAbsolute = true := by
    unfold isAbsolute
    cases p.root <;> decide
  rw [← hbody, ← htext, ← List.mem_append, toString_eq]
  split
  · next hempty =>
    rw [List.isEmpty_iff.1 hempty]
    decide
  · rw [String.toList_ofList]

theorem isAbsolute_ofString_iff {s : String} :
    (ofString s).isAbsolute = true ↔ Text.begins "/" s = true := by
  have hbegins : Text.begins "/" s = ['/'].isPrefixOf s.toList := rfl
  rw [hbegins, isAbsolute, ofString, PathRoot.ofChars]
  cases s.toList with
  | nil => decide
  | cons c rest =>
    by_cases hc : c = '/'
    · subst hc
      rw [List.takeWhile_cons_of_pos (by decide), List.length_cons]
      simp only [List.isPrefixOf, beq_self_eq_true, Bool.true_and, iff_true]
      split <;> first | rfl | omega
    · have hne : (c == '/') = false := by simpa using hc
      rw [List.takeWhile_cons_of_neg (by simpa using hc)]
      simp [List.isPrefixOf, Ne.symm hc]

theorem begins_toString_of_isAbsolute {p : Path} (h : p.isAbsolute = true) :
    Text.begins "/" p.toString = true := by
  have htext : ∃ rest, p.root.text = '/' :: rest := by
    unfold isAbsolute at h
    cases hroot : p.root with
    | relative =>
      rw [hroot] at h
      cases h
    | single => exact ⟨[], rfl⟩
    | double => exact ⟨['/'], rfl⟩
  obtain ⟨rest, hrest⟩ := htext
  rw [toString_eq, hrest, if_neg (by simp), Text.begins, String.toList_ofList]
  simp [List.isPrefixOf]

theorem length_parts_ofString_le {s : String} (h : '/' ∉ s.toList) :
    (ofString s).parts.length ≤ 1 := by
  have hsplit : (['/'].intercalate [s.toList]).splitOn '/' = [s.toList] :=
    List.splitOn_intercalate '/' (by simpa using h) (by simp)
  rw [List.intercalate_singleton] at hsplit
  rw [ofString, hsplit, List.length_map]
  exact List.length_filter_le _ _

end Path

end CompilerCommands
