import CompilerCommands.Rustc.Arguments

/-!
# Changes to what rustc is asked to emit
-/

namespace CompilerCommands.Rustc

inductive Change where
  | emit (artifact : Artifact) (on : Bool)
  | optimize (on : Bool)
  | filter (pattern : Option String)
  | recordEmit (kinds : String)
  | addCodegen (option : String)
  | setCodegen (key : String) (value : Option String)
  deriving DecidableEq, Repr

namespace Change

def apply (flags : Flags) : Change → Flags
  | emit artifact on => flags.setEmits artifact on
  | optimize on => { flags with optimize := on }
  | filter pattern => { flags with filter := pattern }
  | recordEmit kinds => flags.recordEmit kinds
  | addCodegen option => flags.addCodegen (Setting.ofString option)
  | setCodegen key value => flags.setCodegen key value

def applyAll (flags : Flags) (changes : List Change) : Flags := changes.foldl apply flags

theorem applyAll_append (flags : Flags) (a b : List Change) :
    applyAll flags (a ++ b) = applyAll (applyAll flags a) b := by
  simp [applyAll]

end Change

end CompilerCommands.Rustc
