import CompilerCommands.Text.Basic
import CompilerCommands.Text.Lowercase
import Mathlib.Data.List.Induction

/-!
# Endings in lower case

Some ASCII characters are lower-case forms of ASCII characters only. Where a text in lower case ends
with such characters, the text itself ends with them in some letter case.
-/

namespace CompilerCommands.Text

open Unicode

/-! ## Text between other texts -/

/-- Lower-cases a text that stands between `before`, nearest first, and `after`. -/
def lowerBetween (before : List Char) : List Char → List Char → List Char
  | [], _ => []
  | c :: rest, after =>
    lowerAt before c (rest ++ after) ++ lowerBetween (c :: before) rest after

theorem lowerFrom_append (before cs after : List Char) : lowerFrom before (cs ++ after) =
    lowerBetween before cs after ++ lowerFrom (cs.reverse ++ before) after := by
  induction cs generalizing before with
  | nil => rfl
  | cons c rest ih =>
    rw [List.cons_append, lowerFrom, ih, lowerBetween, List.reverse_cons, List.append_assoc,
      List.append_assoc, List.singleton_append]

theorem lowerFrom_eq_lowerBetween (cs : List Char) : lowerFrom [] cs = lowerBetween [] cs [] := by
  have h := lowerFrom_append [] cs []
  rwa [List.append_nil, lowerFrom, List.append_nil] at h

theorem lowerBetween_concat (before cs : List Char) (c : Char) (after : List Char) :
    lowerBetween before (cs ++ [c]) after =
      lowerBetween before cs (c :: after) ++ lowerAt (cs.reverse ++ before) c after := by
  induction cs generalizing before with
  | nil => simp [lowerBetween]
  | cons d rest ih =>
    rw [List.cons_append, lowerBetween, ih, lowerBetween, List.reverse_cons]
    simp

/-! ## ASCII -/

theorem lowerAt_of_ascii {c : Char} (h : c.toNat < 0x80) (before after : List Char) :
    lowerAt before c after = [c.toLower] := by
  rw [lowerAt, if_neg (by omega), if_neg (by omega), lowerChar, if_pos h]

theorem lowerFrom_of_ascii {cs : List Char} (h : ∀ c ∈ cs, c.toNat < 0x80) (before : List Char) :
    lowerFrom before cs = cs.map Char.toLower := by
  induction cs generalizing before with
  | nil => rfl
  | cons c rest ih =>
    obtain ⟨hc, hrest⟩ := List.forall_mem_cons.1 h
    rw [lowerFrom, lowerAt_of_ascii hc, ih hrest]
    rfl

theorem ascii_of_toLower {c : Char} (h : c.toLower.toNat < 0x80) : c.toNat < 0x80 := by
  unfold Char.toLower at h
  split at h
  · next hcapital =>
    have : c.val.toNat ≤ 'Z'.val.toNat := UInt32.le_iff_toNat_le.1 hcapital.2
    have : c.toNat = c.val.toNat := rfl
    have : 'Z'.val.toNat = 90 := rfl
    omega
  · exact h

/-- Is no lower-case form of a character beyond ASCII. -/
def OnlyFromAscii (x : Char) : Prop :=
  (0 < x.toNat ∧ x.toNat < 0x80) ∧ ∀ run ∈ caseRuns,
    x.toNat < run.lower ∨ run.lower + (run.last - run.first) < x.toNat

instance (x : Char) : Decidable (OnlyFromAscii x) :=
  decidable_of_iff ((0 < x.toNat ∧ x.toNat < 0x80) ∧ caseRuns.all (fun run =>
    x.toNat < run.lower || run.lower + (run.last - run.first) < x.toNat) = true)
    (by simp only [OnlyFromAscii, List.all_eq_true, Bool.or_eq_true, decide_eq_true_eq])

variable {x : Char}

theorem not_lower?_of_onlyFromAscii (hx : OnlyFromAscii x) (n : Nat) :
    caseRuns.findSome? (·.lower? n) ≠ some x.toNat := by
  intro h
  obtain ⟨run, hrun, hlower⟩ := List.exists_of_findSome?_eq_some h
  have hrange := hx.2 run hrun
  unfold CaseRun.lower? at hlower
  split at hlower
  · next hin =>
    have hform : run.lower + (n - run.first) = x.toNat := Option.some.inj hlower
    omega
  · cases hlower

theorem toNat_ofNat_eq (n : Nat) : (Char.ofNat n).toNat = n ∨ (Char.ofNat n).toNat = 0 := by
  by_cases h : n.isValidChar
  · rw [Char.ofNat, dif_pos h]
    exact .inl rfl
  · rw [Char.ofNat, dif_neg h]
    exact .inr rfl

theorem lowerChar_eq (hx : OnlyFromAscii x) {c : Char} (h : lowerChar c = x) :
    c.toNat < 0x80 ∧ c.toLower = x := by
  unfold lowerChar at h
  split at h
  · next hascii => exact ⟨hascii, h⟩
  · next hascii =>
    exfalso
    split at h
    · next n hn =>
      rcases toNat_ofNat_eq n with hform | hform <;> rw [h] at hform
      · exact not_lower?_of_onlyFromAscii hx c.toNat (hform ▸ hn)
      · exact absurd hform (Nat.ne_of_gt hx.1.1)
    · rw [h] at hascii
      exact hascii hx.1.2

/-- The lower-case forms of a sigma and of a capital I with a dot end beyond ASCII. -/
theorem lowerAt_cases (before : List Char) (c : Char) (after : List Char) :
    lowerAt before c after = [lowerChar c] ∨
      ∃ front last, lowerAt before c after = front ++ [last] ∧ 0x80 ≤ last.toNat := by
  unfold lowerAt
  split
  · split
    · exact .inr ⟨[], _, rfl, by decide⟩
    · exact .inr ⟨[], _, rfl, by decide⟩
  · split
    · exact .inr ⟨['i'], _, rfl, by decide⟩
    · exact .inl rfl

theorem lowerAt_eq_concat (hx : OnlyFromAscii x) {before after front : List Char} {c : Char}
    (h : lowerAt before c after = front ++ [x]) : front = [] ∧ c.toLower = x := by
  obtain hform | ⟨other, last, hform, hlast⟩ := lowerAt_cases before c after <;> rw [hform] at h
  · obtain ⟨rfl, hx'⟩ := List.append_inj' ((List.nil_append _).trans h) rfl
    exact ⟨rfl, (lowerChar_eq hx (List.cons.inj hx').1).2⟩
  · obtain ⟨-, hx'⟩ := List.append_inj' h rfl
    rw [(List.cons.inj hx').1] at hlast
    exact absurd hx.1.2 (Nat.not_lt.2 hlast)

theorem exists_lowerAt_eq_concat (before : List Char) (c : Char) (after : List Char) :
    ∃ front last, lowerAt before c after = front ++ [last] := by
  obtain hform | ⟨front, last, hform, -⟩ := lowerAt_cases before c after
  · exact ⟨[], _, hform⟩
  · exact ⟨front, last, hform⟩

/-- The ending is peeled off from behind. What stands behind the text does not change it. -/
theorem lowerBetween_eq_append {ending : List Char} (hending : ∀ x ∈ ending, OnlyFromAscii x)
    {before cs after front : List Char} (h : lowerBetween before cs after = front ++ ending) :
    ∃ start ext, cs = start ++ ext ∧ ext.map Char.toLower = ending := by
  induction ending using List.reverseRecOn generalizing cs after with
  | nil => exact ⟨cs, [], by simp, rfl⟩
  | append_singleton ending x ih =>
    cases cs using List.reverseRecOn with
    | nil => simp [lowerBetween] at h
    | append_singleton cs c =>
      rw [lowerBetween_concat, ← List.append_assoc] at h
      obtain ⟨piece, last, hpiece⟩ := exists_lowerAt_eq_concat (cs.reverse ++ before) c after
      rw [hpiece, ← List.append_assoc] at h
      obtain ⟨hfront, hlast⟩ := List.append_inj' h rfl
      obtain rfl := (List.cons.inj hlast).1
      obtain ⟨rfl, hlower⟩ := lowerAt_eq_concat (hending last (by simp)) hpiece
      rw [List.append_nil] at hfront
      obtain ⟨start, ext, rfl, hext⟩ := ih (fun y hy => hending y (by simp [hy])) hfront
      exact ⟨start, ext ++ [c], by simp, by simp [hext, hlower]⟩

theorem ends_lower_iff {ending s : String} (hending : ∀ x ∈ ending.toList, OnlyFromAscii x) :
    ends ending (lower s) = true ↔
      ∃ front ext, s = front ++ ext ∧ ext.toList.map Char.toLower = ending.toList := by
  rw [ends_iff, lower]
  constructor
  · rintro ⟨front, hfront⟩
    have hchars : lowerBetween [] s.toList [] = front.toList ++ ending.toList := by
      rw [← lowerFrom_eq_lowerBetween, ← String.toList_append, ← hfront, String.toList_ofList]
    obtain ⟨start, ext, hcs, hext⟩ := lowerBetween_eq_append hending hchars
    refine ⟨String.ofList start, String.ofList ext, ?_, by rwa [String.toList_ofList]⟩
    rw [← String.ofList_append, ← hcs, String.ofList_toList]
  · rintro ⟨front, ext, rfl, hext⟩
    have hascii : ∀ c ∈ ext.toList, c.toNat < 0x80 := by
      intro c hc
      have hmem : c.toLower ∈ ending.toList := hext ▸ List.mem_map_of_mem hc
      exact ascii_of_toLower (hending _ hmem).1.2
    refine ⟨String.ofList (lowerBetween [] front.toList ext.toList), ?_⟩
    rw [String.toList_append, lowerFrom_append, lowerFrom_of_ascii hascii, hext,
      String.ofList_append, String.ofList_toList]

end CompilerCommands.Text
