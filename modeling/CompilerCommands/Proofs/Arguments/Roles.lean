import CompilerCommands.Arguments.Positional

/-!
# What each argument is read as

The reading of positional arguments takes each argument for a flag, for the value of the flag before
it, or for a positional one. Reading goes on after a list with what the list left pending, so what
is appended is read as it would be alone, unless a value is pending: then its first argument is
lost.
-/

namespace CompilerCommands.Arguments

/-- What an argument is read as. -/
inductive ArgRole where
  | flag
  | value
  | positional
  deriving DecidableEq, Repr

/-- The roles of arguments, when the first one is a value (`pending`) or not. -/
def rolesFrom (valueFlags : List String) : Bool → List String → List ArgRole
  | _, [] => []
  | true, _ :: rest => .value :: rolesFrom valueFlags false rest
  | false, arg :: rest =>
    if valueFlags.contains arg then .flag :: rolesFrom valueFlags true rest
    else if isFlag arg then .flag :: rolesFrom valueFlags false rest
    else .positional :: rolesFrom valueFlags false rest

variable {valueFlags : List String}

theorem length_rolesFrom (valueFlags : List String) (pending : Bool) (args : List String) :
    (rolesFrom valueFlags pending args).length = args.length := by
  fun_induction rolesFrom valueFlags pending args <;> simp_all

theorem positionalFrom_eq_rolesFrom (valueFlags : List String) (pending : Bool)
    (args : List String) :
    positionalFrom valueFlags pending args =
      ((args.zip (rolesFrom valueFlags pending args)).filter (·.2 == .positional)).map
        Prod.fst := by
  fun_induction rolesFrom valueFlags pending args with
  | case1 pending => cases pending <;> rfl
  | case2 value rest ih => simpa [positionalFrom] using ih
  | case3 arg rest hv ih =>
    rw [positionalFrom, if_pos hv]
    simpa using ih
  | case4 arg rest hv hf ih =>
    rw [positionalFrom, if_neg hv, if_pos hf]
    simpa using ih
  | case5 arg rest hv hf ih =>
    rw [positionalFrom, if_neg hv, if_neg hf]
    simpa using ih

theorem rolesFrom_append (valueFlags : List String) (pending : Bool) (a b : List String) :
    rolesFrom valueFlags pending (a ++ b) =
      rolesFrom valueFlags pending a ++
        rolesFrom valueFlags (pendingAfter valueFlags pending a) b := by
  fun_induction rolesFrom valueFlags pending a with
  | case1 pending => rfl
  | case2 value rest ih => simpa [rolesFrom, pendingAfter] using ih
  | case3 arg rest hv ih => simpa [rolesFrom, pendingAfter, List.contains_iff_mem.1 hv] using ih
  | case4 arg rest hv hf ih =>
    rw [List.contains_iff_mem] at hv
    simpa [rolesFrom, pendingAfter, hv, hf] using ih
  | case5 arg rest hv hf ih =>
    rw [List.contains_iff_mem] at hv
    simpa [rolesFrom, pendingAfter, hv, hf] using ih

theorem rolesFrom_flags {flags : List String}
    (h : ∀ flag ∈ flags, flag ∉ valueFlags ∧ isFlag flag = true) :
    rolesFrom valueFlags false flags = List.replicate flags.length .flag := by
  induction flags with
  | nil => rfl
  | cons flag rest ih =>
    obtain ⟨hv, hf⟩ := h flag List.mem_cons_self
    rw [rolesFrom, if_neg (by simpa using hv), if_pos hf,
      ih fun other ho => h other (List.mem_cons_of_mem _ ho)]
    rfl

end CompilerCommands.Arguments
