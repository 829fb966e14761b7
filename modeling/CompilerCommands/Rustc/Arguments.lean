import CompilerCommands.Rustc.Flags

/-!
# Reading rustc arguments

Arguments are read in units, each of one or two arguments, and the units change the state one after
another. Nothing is refused: what is no emission, codegen option or optimisation flag is kept.
-/

namespace CompilerCommands.Rustc

/-- What one or two arguments ask for. -/
inductive ArgUnit where
  | emit (kinds : String)
  | codegen (option : String)
  | optimize
  | retained (arg : String)
  deriving DecidableEq, Repr

namespace ArgUnit

def isEmit : ArgUnit → Bool
  | emit _ => true
  | _ => false

def ofSingle (arg : String) : ArgUnit :=
  match Text.after? "--emit=" arg with
  | some kinds => emit kinds
  | none =>
    match Text.after? "--codegen=" arg with
    | some option => codegen option
    | none =>
      match Text.after? "-C" arg with
      | some option =>
        if option.isEmpty then retained arg else codegen option
      | none => if arg = "-O" then optimize else retained arg

/-- The unit of a flag with its value in the next argument. -/
def ofPair? (flag value : String) : Option ArgUnit :=
  if flag = "--emit" then some (emit value)
  else if flag = "-C" ∨ flag = "--codegen" then some (codegen value)
  else none

def ofArgs : List String → List ArgUnit
  | [] => []
  | [arg] => [ofSingle arg]
  | arg :: value :: rest =>
    match ofPair? arg value with
    | some unit => unit :: ofArgs rest
    | none => ofSingle arg :: ofArgs (value :: rest)

def apply (flags : Flags) : ArgUnit → Flags
  | emit kinds => flags.recordEmit kinds
  | codegen option => flags.addCodegen (Setting.ofString option)
  | optimize => { flags with optimize := true }
  | retained arg => { flags with retained := flags.retained ++ [arg] }

end ArgUnit

/-- The state before any unit. Both artifacts are emitted unless some unit says what to emit. -/
def Flags.initial (units : List ArgUnit) : Flags :=
  let implied := !units.any ArgUnit.isEmit
  { emitLlvmIr := implied, emitAsm := implied }

def Flags.ofUnits (units : List ArgUnit) : Flags := units.foldl ArgUnit.apply (Flags.initial units)

/-- The state that rustc arguments ask for. -/
def Flags.ofArgs (args : List String) : Flags := Flags.ofUnits (ArgUnit.ofArgs args)

end CompilerCommands.Rustc
