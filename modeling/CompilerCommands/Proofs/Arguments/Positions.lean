import CompilerCommands.Arguments.Positional

/-!
# Where positional arguments stand

Whether an argument is positional depends on the arguments before it only through the value that
these may leave pending. So a flag with its value, or a flag without one, changes nothing about the
others where it is put between arguments that leave nothing pending.
-/

namespace CompilerCommands.Arguments

variable {valueFlags : List String}

/-- Behind `front`, `arg` is neither a flag nor the value of one. -/
structure IsPositional (valueFlags front : List String) (arg : String) : Prop where
  settled : pendingAfter valueFlags false front = false
  takesNone : arg ∉ valueFlags
  unflagged : isFlag arg = false

/-! ## What is put between arguments -/

variable {a : List String} {flag : String}

theorem positional_insert_pair (ha : pendingAfter valueFlags false a = false)
    (hf : flag ∈ valueFlags) (value : String) (b : List String) :
    positional valueFlags (a ++ flag :: value :: b) = positional valueFlags (a ++ b) := by
  simp [positional, positionalFrom_append, ha, positionalFrom, hf]

theorem positional_insert_flag (ha : pendingAfter valueFlags false a = false)
    (hv : flag ∉ valueFlags) (hf : isFlag flag = true) (b : List String) :
    positional valueFlags (a ++ flag :: b) = positional valueFlags (a ++ b) := by
  simp [positional, positionalFrom_append, ha, positionalFrom, hv, hf]

/-! ## Where a positional argument comes from -/

/-- A positional argument stands somewhere among the arguments, and the positional arguments before
it are those of the arguments before it. -/
theorem positionalFrom_eq_append_cons {pending : Bool} {args before after : List String}
    {arg : String} (h : positionalFrom valueFlags pending args = before ++ arg :: after) :
    ∃ front back, args = front ++ arg :: back ∧
      positionalFrom valueFlags pending front = before ∧
      pendingAfter valueFlags pending front = false ∧ arg ∉ valueFlags ∧ isFlag arg = false := by
  -- What the scan skips goes to `front`; `before` loses its head only at a positional argument.
  fun_induction positionalFrom valueFlags pending args generalizing before with
  | case1 => simp at h
  | case2 value rest ih =>
    obtain ⟨front, back, rfl, hbefore, hpending, harg⟩ := ih h
    exact ⟨value :: front, back, rfl, hbefore, hpending, harg⟩
  | case3 first rest hv ih =>
    obtain ⟨front, back, rfl, hbefore, hpending, harg⟩ := ih h
    refine ⟨first :: front, back, rfl, ?_, ?_, harg⟩
    · rw [positionalFrom, if_pos hv, hbefore]
    · simpa [pendingAfter, List.contains_iff_mem.1 hv] using hpending
  | case4 first rest hv hf ih =>
    obtain ⟨front, back, rfl, hbefore, hpending, harg⟩ := ih h
    refine ⟨first :: front, back, rfl, ?_, ?_, harg⟩
    · rw [positionalFrom, if_neg hv, if_pos hf, hbefore]
    · simpa [pendingAfter, mt List.contains_iff_mem.2 hv] using hpending
  | case5 first rest hv hf ih =>
    rw [List.contains_iff_mem] at hv
    cases before with
    | nil =>
      obtain ⟨rfl, rfl⟩ := List.cons.inj h
      exact ⟨[], rest, rfl, rfl, rfl, hv, by simpa using hf⟩
    | cons other before =>
      obtain ⟨rfl, hrest⟩ := List.cons.inj h
      obtain ⟨front, back, rfl, hbefore, hpending, harg⟩ := ih hrest
      refine ⟨first :: front, back, rfl, ?_, ?_, harg⟩
      · rw [positionalFrom, if_neg (by simpa using hv), if_neg hf, hbefore]
      · simpa [pendingAfter, hv] using hpending

theorem positional_append_cons {front : List String} {arg : String}
    (h : IsPositional valueFlags front arg) (back : List String) :
    positional valueFlags (front ++ arg :: back) =
      positional valueFlags front ++ arg :: positional valueFlags back := by
  simp [positional, positionalFrom_append, h.settled, positionalFrom, h.takesNone, h.unflagged]

theorem mem_positional_iff {args : List String} {arg : String} :
    arg ∈ positional valueFlags args ↔
      ∃ front back, args = front ++ arg :: back ∧ IsPositional valueFlags front arg := by
  constructor
  · intro h
    obtain ⟨before, after, hsplit⟩ := List.append_of_mem h
    obtain ⟨front, back, rfl, -, hpending, hv, hf⟩ := positionalFrom_eq_append_cons hsplit
    exact ⟨front, back, rfl, hpending, hv, hf⟩
  · rintro ⟨front, back, rfl, h⟩
    simp [positional_append_cons h]

theorem find?_positional_eq_some_iff {args : List String} {test : String → Bool} {arg : String} :
    (positional valueFlags args).find? test = some arg ↔
      ∃ front back, args = front ++ arg :: back ∧ IsPositional valueFlags front arg ∧
        test arg = true ∧ ∀ earlier ∈ positional valueFlags front, test earlier = false := by
  rw [List.find?_eq_some_iff_append]
  constructor
  · rintro ⟨htest, before, after, hsplit, hbefore⟩
    obtain ⟨front, back, rfl, rfl, hpending, hv, hf⟩ := positionalFrom_eq_append_cons hsplit
    exact ⟨front, back, rfl, ⟨hpending, hv, hf⟩, htest, by simpa [positional] using hbefore⟩
  · rintro ⟨front, back, rfl, h, htest, hbefore⟩
    exact ⟨htest, _, _, positional_append_cons h back, by simpa using hbefore⟩

end CompilerCommands.Arguments
