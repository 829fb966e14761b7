/-!
# Beginnings, endings and cuts

Tests and cuts on text, stated over the list of its characters.
-/

namespace CompilerCommands.Text

/-! ## Beginnings and endings -/

def begins (start s : String) : Bool := start.toList.isPrefixOf s.toList

def ends (ending s : String) : Bool := ending.toList.isSuffixOf s.toList

/-- What follows `start` in `s`, if `s` begins with it. -/
def after? (start s : String) : Option String :=
  if begins start s then some (String.ofList (s.toList.drop start.toList.length)) else none

theorem begins_iff {start s : String} : begins start s = true ↔ ∃ rest, s = start ++ rest := by
  rw [begins, List.isPrefixOf_iff_prefix]
  constructor
  · rintro ⟨t, ht⟩
    exact ⟨String.ofList t, String.toList_inj.1 (by simp [ht])⟩
  · rintro ⟨rest, rfl⟩
    exact ⟨rest.toList, by simp⟩

theorem ends_iff {ending s : String} : ends ending s = true ↔ ∃ front, s = front ++ ending := by
  rw [ends, List.isSuffixOf_iff_suffix]
  constructor
  · rintro ⟨t, ht⟩
    exact ⟨String.ofList t, String.toList_inj.1 (by simp [ht])⟩
  · rintro ⟨front, rfl⟩
    exact ⟨front.toList, by simp⟩

@[simp] theorem begins_append (start rest : String) : begins start (start ++ rest) = true :=
  begins_iff.2 ⟨rest, rfl⟩

theorem begins_trans {a b s : String} (ha : begins a b = true) (hb : begins b s = true) :
    begins a s = true := by
  simp only [begins, List.isPrefixOf_iff_prefix] at *
  exact ha.trans hb

theorem begins_or_begins {a b s : String} (ha : begins a s = true) (hb : begins b s = true) :
    begins a b = true ∨ begins b a = true := by
  simp only [begins, List.isPrefixOf_iff_prefix] at *
  exact List.prefix_or_prefix_of_prefix ha hb

theorem after?_eq_some_iff {start s rest : String} :
    after? start s = some rest ↔ s = start ++ rest := by
  unfold after?
  constructor
  · intro h
    split at h
    · rename_i hb
      obtain ⟨t, rfl⟩ := begins_iff.1 hb
      simp only [Option.some.injEq] at h
      subst h
      simp
    · exact absurd h (by simp)
  · rintro rfl
    simp

@[simp] theorem after?_append (start rest : String) : after? start (start ++ rest) = some rest :=
  after?_eq_some_iff.2 rfl

/-! ## Cuts at a character -/

/-- The part before the first `sep`, and the part after it if there is one. -/
def cut (sep : Char) : List Char → List Char × Option (List Char)
  | [] => ([], none)
  | c :: rest =>
    if c = sep then ([], some rest)
    else
      let (before, after) := cut sep rest
      (c :: before, after)

/-- A cut loses nothing but the separator. -/
theorem append_cut (sep : Char) (cs : List Char) :
    (cut sep cs).1 ++ ((cut sep cs).2.map (sep :: ·)).getD [] = cs := by
  induction cs with
  | nil => rfl
  | cons c cs ih =>
    by_cases h : c = sep
    · simp [cut, h]
    · simpa [cut, h] using ih

theorem cut_append_cons {sep : Char} {before : List Char} (h : sep ∉ before) (after : List Char) :
    cut sep (before ++ sep :: after) = (before, some after) := by
  induction before with
  | nil => simp [cut]
  | cons c before ih =>
    simp only [List.mem_cons, not_or] at h
    simp [cut, ih h.2, Ne.symm h.1]

theorem cut_of_not_mem {sep : Char} {cs : List Char} (h : sep ∉ cs) : cut sep cs = (cs, none) := by
  induction cs with
  | nil => rfl
  | cons c cs ih =>
    simp only [List.mem_cons, not_or] at h
    simp [cut, ih h.2, Ne.symm h.1]

theorem not_mem_cut_fst (sep : Char) (cs : List Char) : sep ∉ (cut sep cs).1 := by
  induction cs with
  | nil => simp [cut]
  | cons c cs ih =>
    by_cases h : c = sep
    · simp [cut, h]
    · simp [cut, h, ih, Ne.symm h]

theorem not_mem_of_mem_splitOn {sep : Char} {cs piece : List Char} (h : piece ∈ cs.splitOn sep) :
    sep ∉ piece := by
  induction cs generalizing piece with
  | nil => simp_all
  | cons c rest ih =>
    rw [List.splitOn_cons_eq_if_modifyHead] at h
    split at h
    · rcases List.mem_cons.1 h with rfl | h
      · simp
      · exact ih h
    · next hc =>
      obtain ⟨first, others, hs⟩ := List.exists_cons_of_ne_nil (List.splitOn_ne_nil sep rest)
      rw [hs, List.modifyHead_cons] at h
      rcases List.mem_cons.1 h with rfl | h
      · have : sep ∉ first := ih (by simp [hs])
        simp_all [Ne.symm]
      · exact ih (by simp [hs, h])

/-- The part before the last `sep` and the part after it, if there is one. -/
def cutLast (sep : Char) (cs : List Char) : Option (List Char × List Char) :=
  match cut sep cs.reverse with
  | (after, some before) => some (before.reverse, after.reverse)
  | (_, none) => none

/-! ## Dropping at either end -/

/-- Drops characters from the end as long as `p` holds. -/
def dropEndWhile (p : Char → Bool) (cs : List Char) : List Char :=
  (cs.reverse.dropWhile p).reverse

def trim (p : Char → Bool) (cs : List Char) : List Char :=
  dropEndWhile p (cs.dropWhile p)

@[simp] theorem dropEndWhile_nil (p : Char → Bool) : dropEndWhile p [] = [] := rfl

theorem dropEndWhile_append_of_pos {p : Char → Bool} {c : Char} (h : p c = true)
    (cs : List Char) : dropEndWhile p (cs ++ [c]) = dropEndWhile p cs := by
  simp [dropEndWhile, h]

end CompilerCommands.Text
