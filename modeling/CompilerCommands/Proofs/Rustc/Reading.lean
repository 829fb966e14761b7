import CompilerCommands.Proofs.Rustc.Units
import CompilerCommands.Rustc.Paths

/-!
# Which arguments rustc's flags keep

The reading of flags keeps an argument or takes it, alone or with the next one, as a flag that can
be changed (`ReadAs`). What it takes alone is a flag without a value of its own and says nothing
about the output (`not_kept`). Values stay with their flags if what stands behind a flag that takes
a value is kept (`attached`).
-/

namespace CompilerCommands.Rustc

open Arguments (isFlag assigned? joinedPath?)

/-! ## Arguments that name the output -/

def outputFlags : List String := ["-o", "--crate-name", "--out-dir"]

/-- Is read as something about the output, or as a flag for it. -/
def namesOutput (arg : String) : Bool :=
  outputFlags.contains arg || (assigned? outputFlags arg).isSome || (joinedPath? arg).isSome

variable {arg flag : String}

theorem not_namesOutput (h : namesOutput arg = false) (hf : flag ∈ outputFlags) :
    arg ≠ flag ∧ assigned? [flag] arg = none := by
  simp only [namesOutput, Bool.or_eq_false_iff] at h
  obtain ⟨⟨hc, ha⟩, -⟩ := h
  refine ⟨?_, ?_⟩
  · rintro rfl
    simp_all
  · have hall : ∀ other ∈ outputFlags, Text.after? (other ++ "=") arg = none := by
      simpa [assigned?, List.findSome?_eq_none_iff] using ha
    simp [assigned?, hall flag hf]

theorem joinedPath?_of_not_namesOutput (h : namesOutput arg = false) : joinedPath? arg = none := by
  simp_all [namesOutput]

theorem not_namesOutput_of_pairFlag (h : flag ∈ pairFlags) : namesOutput flag = false := by
  revert flag
  decide

theorem begins_of_namesOutput (h : namesOutput arg = true) :
    arg ∈ outputFlags ∨
      ∃ start ∈ "-o" :: outputFlags.map (· ++ "="), Text.begins start arg = true := by
  simp only [namesOutput, Bool.or_eq_true, List.contains_iff_mem] at h
  obtain (h | h) | h := h
  · exact .inl h
  · obtain ⟨value, hv⟩ := Option.isSome_iff_exists.1 h
    obtain ⟨other, ho, ha⟩ := List.exists_of_findSome?_eq_some hv
    refine .inr ⟨other ++ "=", List.mem_cons_of_mem _ (List.mem_map_of_mem ho), ?_⟩
    rw [Text.after?_eq_some_iff.1 ha]
    exact Text.begins_append _ _
  · refine .inr ⟨"-o", List.mem_cons_self, ?_⟩
    unfold joinedPath? at h
    split at h
    · next path hp =>
      rw [Text.after?_eq_some_iff.1 hp]
      exact Text.begins_append _ _
    · cases h

/-! ## Arguments that are not kept -/

namespace ArgUnit

def starts : List String := ["--emit=", "--codegen=", "-C", "-O"]

theorem ofSingle_cases (arg : String) :
    ofSingle arg = retained arg ∨
      (ofSingle arg).retained? = none ∧ ∃ start ∈ starts, Text.begins start arg = true := by
  unfold ofSingle
  split
  · next kinds hk =>
    rw [Text.after?_eq_some_iff.1 hk]
    exact .inr ⟨rfl, "--emit=", by decide, Text.begins_append _ _⟩
  · split
    · next option ho =>
      rw [Text.after?_eq_some_iff.1 ho]
      exact .inr ⟨rfl, "--codegen=", by decide, Text.begins_append _ _⟩
    · split
      · next option ho =>
        split
        · exact .inl rfl
        · rw [Text.after?_eq_some_iff.1 ho]
          exact .inr ⟨rfl, "-C", by decide, Text.begins_append _ _⟩
      · split
        · next hO => exact .inr ⟨rfl, "-O", by decide, by rw [hO]; decide⟩
        · exact .inl rfl

theorem ofSingle_of_mem_valueFlags (h : arg ∈ valueFlags) : ofSingle arg = retained arg := by
  revert arg
  decide

/-- An argument that is not kept is a flag without a value of its own, and not about the output. -/
theorem not_kept (h : (ofSingle arg).retained? = none) :
    arg ∉ valueFlags ∧ isFlag arg = true ∧ namesOutput arg = false := by
  obtain hkept | ⟨-, start, hs, hb⟩ := ofSingle_cases arg
  · rw [hkept] at h
    cases h
  have hvalue : arg ∉ valueFlags := fun hv => by
    rw [ofSingle_of_mem_valueFlags hv] at h
    cases h
  have hmarker : arg ≠ stdoutMarker := by
    rintro rfl
    exact absurd h (by decide)
  have hhyphen : ∀ start ∈ starts, Text.begins "-" start = true := by decide
  have hflag : isFlag arg = true := by
    simp [isFlag, Text.begins_trans (hhyphen start hs) hb, hmarker]
  refine ⟨hvalue, hflag, Bool.eq_false_iff.2 fun hn => ?_⟩
  obtain ho | ⟨other, ho, hother⟩ := begins_of_namesOutput hn
  · have hsub : ∀ flag ∈ outputFlags, flag ∈ valueFlags := by decide
    exact hvalue (hsub arg ho)
  · have hclash : ∀ start ∈ starts, ∀ other ∈ "-o" :: outputFlags.map (· ++ "="),
        Text.begins start other = false ∧ Text.begins other start = false := by decide +kernel
    obtain ⟨h1, h2⟩ := hclash start hs other ho
    rcases Text.begins_or_begins hb hother with h | h <;> simp_all

/-- The text that says what to emit or how to generate code. -/
def text? : ArgUnit → Option String
  | emit kinds => some kinds
  | codegen option => some option
  | _ => none

theorem text?_of_ofPair? {value : String} {unit : ArgUnit} (h : ofPair? flag value = some unit) :
    flag ∈ pairFlags ∧ unit.text? = some value := by
  simp only [ofPair?] at h
  split at h
  · cases h
    simp_all [pairFlags, text?]
  · split at h
    · cases h
      simp_all [pairFlags, text?]
    · cases h

/-! ## How arguments fall into units -/

/-- The arguments are those of the units: an argument that is kept, one that is not, or a flag with
its value. -/
inductive ReadAs : List String → List ArgUnit → Prop
  | nil : ReadAs [] []
  | kept {arg : String} {rest : List String} {units : List ArgUnit} :
      ReadAs rest units → ReadAs (arg :: rest) (retained arg :: units)
  | single {arg : String} {unit : ArgUnit} {rest : List String} {units : List ArgUnit} :
      unit.retained? = none → arg ∉ valueFlags → isFlag arg = true → namesOutput arg = false →
      ReadAs rest units → ReadAs (arg :: rest) (unit :: units)
  | pair {flag value : String} {unit : ArgUnit} {rest : List String} {units : List ArgUnit} :
      unit.retained? = none → flag ∈ pairFlags → unit.text? = some value →
      ReadAs rest units → ReadAs (flag :: value :: rest) (unit :: units)

theorem ReadAs.cons_ofSingle {rest : List String} {units : List ArgUnit} (h : ReadAs rest units)
    (arg : String) : ReadAs (arg :: rest) (ofSingle arg :: units) := by
  obtain hkept | ⟨hmoved, -⟩ := ofSingle_cases arg
  · rw [hkept]
    exact .kept h
  · obtain ⟨hvalue, hflag, hnames⟩ := not_kept hmoved
    exact .single hmoved hvalue hflag hnames h

theorem readAs_ofArgs (args : List String) : ReadAs args (ofArgs args) := by
  fun_induction ofArgs args with
  | case1 => exact .nil
  | case2 only => exact ReadAs.nil.cons_ofSingle only
  | case3 flag value rest unit hu ih =>
    obtain ⟨hflag, htext⟩ := text?_of_ofPair? hu
    exact .pair (ofPair?_retained? hu) hflag htext ih
  | case4 first value rest hn ih => exact ih.cons_ofSingle first

/-! ## Values that are kept with their flags -/

def startsKept (units : List ArgUnit) : Bool := (units.head?.bind retained?).isSome

/-- The next argument is kept behind every flag that takes a value. -/
def attached : List ArgUnit → Bool
  | [] => true
  | retained flag :: rest => (!valueFlags.contains flag || startsKept rest) && attached rest
  | _ :: rest => attached rest

theorem attached_of_cons {unit : ArgUnit} {rest : List ArgUnit}
    (h : attached (unit :: rest) = true) : attached rest = true := by
  cases unit <;> simp_all [attached]

theorem startsKept_of_attached {rest : List ArgUnit} (h : attached (retained flag :: rest) = true)
    (hf : flag ∈ valueFlags) : startsKept rest = true := by
  simp_all [attached]

theorem not_startsKept {unit : ArgUnit} (h : unit.retained? = none) (rest : List ArgUnit) :
    ¬startsKept (unit :: rest) = true := by
  simp [startsKept, h]

theorem ReadAs.of_startsKept {args : List String} {units : List ArgUnit} (h : ReadAs args units)
    (hs : startsKept units = true) :
    ∃ value rest others, args = value :: rest ∧ units = retained value :: others := by
  cases h with
  | nil => cases hs
  | kept => exact ⟨_, _, _, rfl, rfl⟩
  | single hmoved => exact absurd hs (not_startsKept hmoved _)
  | pair hmoved => exact absurd hs (not_startsKept hmoved _)

end ArgUnit

end CompilerCommands.Rustc
