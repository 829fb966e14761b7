import CompilerCommands.Rustc.Arguments

/-!
# Units of arguments

How lists of arguments fall into units: which arguments are kept, and the units of the arguments
that a state asks for.
-/

namespace CompilerCommands.Rustc

/-- The flags that take the next argument as their value. -/
def pairFlags : List String := ["--emit", "-C", "--codegen"]

namespace ArgUnit

theorem ofPair?_eq_none {flag : String} (h : flag ∉ pairFlags) (value : String) :
    ofPair? flag value = none := by
  simp only [pairFlags, List.mem_cons, List.not_mem_nil, or_false, not_or] at h
  simp [ofPair?, h]

theorem not_mem_pairFlags {flag value : String} (h : ofPair? flag value = none) :
    flag ∉ pairFlags := by
  simp only [ofPair?] at h
  split at h
  · cases h
  · split at h
    · cases h
    · simp_all [pairFlags]

def retained? : ArgUnit → Option String
  | retained arg => some arg
  | _ => none

theorem ofPair?_retained? {flag value : String} {unit : ArgUnit}
    (h : ofPair? flag value = some unit) : unit.retained? = none := by
  simp only [ofPair?] at h
  split at h
  · cases h; rfl
  · split at h
    · cases h; rfl
    · cases h

theorem ofSingle_of_retained? {arg kept : String} (h : (ofSingle arg).retained? = some kept) :
    kept = arg ∧ ofSingle arg = retained arg := by
  unfold ofSingle at h ⊢
  split at h
  · cases h
  · split at h
    · cases h
    · split at h
      · split at h
        · simp_all [retained?]
        · cases h
      · split at h
        · cases h
        · simp_all [retained?]

/-- Is kept wherever it stands. -/
structure StandsAlone (arg : String) : Prop where
  single : ofSingle arg = retained arg
  pair : arg ∉ pairFlags

theorem single_of_mem_ofArgs {args : List String} {arg : String}
    (h : arg ∈ (ofArgs args).filterMap retained?) : ofSingle arg = retained arg := by
  fun_induction ofArgs args with
  | case1 => simp at h
  | case2 only =>
    simp only [List.mem_filterMap, List.mem_singleton, exists_eq_left] at h
    obtain ⟨rfl, hs⟩ := ofSingle_of_retained? h
    exact hs
  | case3 flag value rest unit hu ih =>
    rw [List.filterMap_cons, ofPair?_retained? hu] at h
    exact ih h
  | case4 first value rest hn ih =>
    obtain ⟨unit, hm, hk⟩ := List.mem_filterMap.1 h
    rcases List.mem_cons.1 hm with rfl | hm
    · obtain ⟨rfl, hs⟩ := ofSingle_of_retained? hk
      exact hs
    · exact ih (List.mem_filterMap.2 ⟨unit, hm, hk⟩)

/-- A flag that takes a value is kept only at the end, where the value is missing. -/
theorem getLast?_of_mem_ofArgs {args : List String} {arg : String}
    (h : arg ∈ (ofArgs args).filterMap retained?) (hp : arg ∈ pairFlags) :
    (ofArgs args).getLast? = some (retained arg) := by
  fun_induction ofArgs args with
  | case1 => simp at h
  | case2 only =>
    simp only [List.mem_filterMap, List.mem_singleton, exists_eq_left] at h
    obtain ⟨rfl, hs⟩ := ofSingle_of_retained? h
    rw [hs, List.getLast?_singleton]
  | case3 flag value rest unit hu ih =>
    rw [List.filterMap_cons, ofPair?_retained? hu] at h
    rw [List.getLast?_cons, ih h]
    rfl
  | case4 first value rest hn ih =>
    obtain ⟨unit, hm, hk⟩ := List.mem_filterMap.1 h
    rcases List.mem_cons.1 hm with rfl | hm
    · obtain ⟨rfl, -⟩ := ofSingle_of_retained? hk
      exact absurd hp (not_mem_pairFlags hn)
    · rw [List.getLast?_cons, ih (List.mem_filterMap.2 ⟨unit, hm, hk⟩)]
      rfl

theorem standsAlone_of_mem_ofArgs {args : List String}
    (hlast : ∀ arg ∈ ((ofArgs args).filterMap retained?).getLast?, arg ∉ pairFlags) :
    ∀ arg ∈ (ofArgs args).filterMap retained?, StandsAlone arg := by
  intro arg h
  refine ⟨single_of_mem_ofArgs h, fun hp => ?_⟩
  obtain ⟨front, hu⟩ := List.getLast?_eq_some_iff.1 (getLast?_of_mem_ofArgs h hp)
  exact hlast arg (by simp [hu, retained?]) hp

/-! ## The arguments of a state -/

theorem ofArgs_cons_of_standsAlone {arg : String} (h : StandsAlone arg) (rest : List String) :
    ofArgs (arg :: rest) = retained arg :: ofArgs rest := by
  cases rest with
  | nil => simp only [ofArgs, h.single]
  | cons next rest => rw [ofArgs, ofPair?_eq_none h.pair, h.single]

theorem ofArgs_append_retained {kept : List String} (h : ∀ arg ∈ kept, StandsAlone arg)
    (rest : List String) : ofArgs (kept ++ rest) = kept.map retained ++ ofArgs rest := by
  induction kept with
  | nil => rfl
  | cons arg others ih =>
    rw [List.cons_append, ofArgs_cons_of_standsAlone (h arg (by simp)),
      ih fun a ha => h a (List.mem_cons_of_mem _ ha)]
    rfl

theorem ofArgs_codegen (options : List Setting) (rest : List String) :
    ofArgs ((options.flatMap fun option => ["-C", option.text]) ++ rest) =
      options.map (fun option => codegen option.text) ++ ofArgs rest := by
  induction options with
  | nil => rfl
  | cons option others ih =>
    simp only [List.flatMap_cons, List.cons_append, List.nil_append]
    rw [ofArgs, ih]
    rfl

def emission (flags : Flags) : List ArgUnit :=
  if flags.emitKinds.isEmpty then [] else [emit (",".intercalate flags.emitKinds)]

theorem ofArgs_synthesize_eq {flags : Flags} (hk : ∀ arg ∈ flags.retained, StandsAlone arg) :
    ofArgs flags.synthesize =
      flags.retained.map retained ++ (emission flags ++
        (flags.codegenOptions.map (fun option => codegen option.text) ++
          if flags.optimize then [optimize] else [])) := by
  have hlast : ofArgs (if flags.optimize then ["-O"] else []) =
      if flags.optimize then [optimize] else [] := by
    cases flags.optimize <;> decide
  rw [Flags.synthesize, Flags.emitArgs, Flags.codegenArgs, emission, List.append_assoc,
    List.append_assoc, ofArgs_append_retained hk]
  congr 1
  split
  · rw [List.nil_append, List.nil_append, ofArgs_codegen, hlast]
  · rw [List.cons_append, List.cons_append, List.nil_append, ofArgs, ofArgs_codegen, hlast]
    rfl

theorem ofArgs_synthesize {flags : Flags} (hk : ∀ arg ∈ flags.retained, StandsAlone arg)
    (hne : flags.emitKinds ≠ []) :
    ofArgs flags.synthesize =
      flags.retained.map retained ++ emit (",".intercalate flags.emitKinds) ::
        (flags.codegenOptions.map (fun option => codegen option.text) ++
          if flags.optimize then [optimize] else []) := by
  rw [ofArgs_synthesize_eq hk, emission, if_neg (by simpa using hne)]
  rfl

end ArgUnit

end CompilerCommands.Rustc
