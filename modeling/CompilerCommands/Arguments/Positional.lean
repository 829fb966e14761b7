import CompilerCommands.Toolchain.DefaultOutput

/-!
# Positional arguments

An argument is a flag, the value of the flag before it, or positional. Reading remembers one thing:
whether a value is pending.
-/

namespace CompilerCommands.Arguments

/-- Looks like a flag. A lone hyphen stands for a standard stream. -/
def isFlag (arg : String) : Bool := Text.begins "-" arg && arg != stdoutMarker

/-- The positional arguments, when the first argument is a value (`pending`) or not. -/
def positionalFrom (valueFlags : List String) : Bool → List String → List String
  | _, [] => []
  | true, _ :: rest => positionalFrom valueFlags false rest
  | false, arg :: rest =>
    if valueFlags.contains arg then positionalFrom valueFlags true rest
    else if isFlag arg then positionalFrom valueFlags false rest
    else arg :: positionalFrom valueFlags false rest

/-- The arguments that are neither flags nor values of `valueFlags`. -/
def positional (valueFlags args : List String) : List String :=
  positionalFrom valueFlags false args

def pendingAfter (valueFlags : List String) (pending : Bool) (args : List String) : Bool :=
  args.foldl (fun pending arg => !pending && valueFlags.contains arg) pending

theorem positionalFrom_append (valueFlags : List String) (pending : Bool) (a b : List String) :
    positionalFrom valueFlags pending (a ++ b) =
      positionalFrom valueFlags pending a ++
        positionalFrom valueFlags (pendingAfter valueFlags pending a) b := by
  induction a generalizing pending with
  | nil => cases pending <;> simp [positionalFrom, pendingAfter]
  | cons arg rest ih =>
    cases pending with
    | true => simp [positionalFrom, pendingAfter, ih]
    | false =>
      by_cases hv : valueFlags.contains arg = true
      · simp_all [positionalFrom, pendingAfter]
      · by_cases hf : isFlag arg = true
        · simp_all [positionalFrom, pendingAfter]
        · simp_all [positionalFrom, pendingAfter]

end CompilerCommands.Arguments
