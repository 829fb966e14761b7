import CompilerCommands.Arguments.FlagValue

/-!
# Where the value of a flag is found

The search for the value of a flag goes through all arguments, the values of other flags included.
It stops at the first argument that is one of the flags or assigns to one. A flag at the end of a
list takes what is appended to the list.
-/

namespace CompilerCommands.Arguments

variable {flags : List String} {arg : String}

theorem separateValue?_cons_of_not_mem (h : arg ∉ flags) (rest : List String) :
    separateValue? flags (arg :: rest) = (assigned? flags arg).or (separateValue? flags rest) := by
  have hflag : flags.contains arg = false := by simpa using h
  simp only [separateValue?, hflag, Bool.false_eq_true, if_false]
  cases assigned? flags arg <;> rfl

def endsInFlag (flags args : List String) : Bool := args.getLast?.any flags.contains

theorem endsInFlag_cons_cons (first second : String) (rest : List String) :
    endsInFlag flags (first :: second :: rest) = endsInFlag flags (second :: rest) := by
  simp [endsInFlag]

theorem separateValue?_append (flags a b : List String) :
    separateValue? flags (a ++ b) =
      (separateValue? flags a).or
        (if endsInFlag flags a = true then b.head? else separateValue? flags b) := by
  induction a with
  | nil => simp [separateValue?, endsInFlag]
  | cons arg rest ih =>
    by_cases hflag : arg ∈ flags
    · cases rest with
      | nil => cases b <;> simp [separateValue?, endsInFlag, hflag]
      | cons value rest => simp [separateValue?, hflag]
    · rw [List.cons_append, separateValue?_cons_of_not_mem hflag,
        separateValue?_cons_of_not_mem hflag, ih, Option.or_assoc]
      cases rest with
      | nil => simp [endsInFlag, hflag, separateValue?]
      | cons value rest => rw [endsInFlag_cons_cons]

end CompilerCommands.Arguments
