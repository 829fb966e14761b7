import CompilerCommands.Text.Basic

/-!
# Values of flags

A flag's value is the next argument, or follows an equals sign, or, for `-o` alone, follows the
flag directly. The direct form counts only if none of the others is there.
-/

namespace CompilerCommands.Arguments

/-- The value of `flag=value`, for the first of `flags` that `arg` gives a value to. -/
def assigned? (flags : List String) (arg : String) : Option String :=
  flags.findSome? fun flag => Text.after? (flag ++ "=") arg

/-- The value of the first of `flags` that has one in a separate argument or after an equals
sign. A flag at the end of the arguments has none. -/
def separateValue? (flags : List String) : List String → Option String
  | [] => none
  | arg :: rest =>
    if flags.contains arg then
      match rest with
      | value :: _ => some value
      | [] => none
    else
      match assigned? flags arg with
      | some value => some value
      | none => separateValue? flags rest

/-- Begins with `-o` and is a flag of its own. -/
def isOtherOFlag (arg : String) : Bool :=
  ["-obj", "-opt", "-order_file"].any fun flag => Text.begins flag arg

/-- The path of `-opath`. -/
def joinedPath? (arg : String) : Option String :=
  match Text.after? "-o" arg with
  | some path => if path.isEmpty || isOtherOFlag arg then none else some path
  | none => none

/-- The value of the first of `flags` in `args`, `-opath` being read if `joined` allows it. -/
def flagValue? (args flags : List String) (joined : Bool) : Option String :=
  match separateValue? flags args with
  | some value => some value
  | none => if joined && flags.contains "-o" then args.findSome? joinedPath? else none

end CompilerCommands.Arguments
