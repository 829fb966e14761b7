import CompilerCommands.Rustc.Setting
import CompilerCommands.Text.Blank

/-!
# What a rustc command is asked to emit

The emission and codegen flags of a rustc command as a state that can be changed, and the arguments
that ask for that state. The arguments come in one order: those that are kept, what to emit, the
codegen options, and the optimisation flag.
-/

namespace CompilerCommands.Rustc

/-! ## Artifacts -/

/-- What can be switched on and off. -/
inductive Artifact where
  | llvmIr
  | asm
  deriving DecidableEq, Repr

namespace Artifact

def name : Artifact → String
  | llvmIr => "llvm-ir"
  | asm => "asm"

def suffix : Artifact → String
  | llvmIr => ".ll"
  | asm => ".s"

def all : List Artifact := [llvmIr, asm]

def ofName? (name : String) : Option Artifact := all.find? (·.name = name)

theorem ofName?_name (a : Artifact) : ofName? a.name = some a := by cases a <;> decide

end Artifact

/-! ## Codegen options -/

/-- The key of the options that are passed on to LLVM. -/
def llvmArgs : String := "llvm-args"

/-- `extra` after `value`, if there is one that is not empty. -/
def appendValue (value : Option String) (extra : String) : String :=
  match value with
  | none => extra
  | some old => if old.isEmpty then extra else old ++ " " ++ extra

/-- Appends `extra` to the value of the first option for LLVM, if there is one. -/
def extendLlvmArgs? (extra : String) : List Setting → Option (List Setting)
  | [] => none
  | option :: rest =>
    if option.key = llvmArgs then
      some ({ option with value := some (appendValue option.value extra) } :: rest)
    else (extendLlvmArgs? extra rest).map (option :: ·)

/-- Adds an option at the end. A value for LLVM joins the option for LLVM that is there. -/
def addOption (options : List Setting) (option : Setting) : List Setting :=
  let extra := option.value.getD ""
  if option.key = llvmArgs ∧ extra ≠ "" then
    (extendLlvmArgs? extra options).getD (options ++ [option])
  else options ++ [option]

/-- Gives the first option for `key` the value and drops the others; adds one if there is none. -/
def setOption (key : String) (value : Option String) : List Setting → List Setting
  | [] => [⟨key, value⟩]
  | option :: rest =>
    if option.key = key then ⟨key, value⟩ :: rest.filter (·.key ≠ key)
    else option :: setOption key value rest

/-! ## The state -/

structure Flags where
  /-- Arguments that are passed on as they are, in order. -/
  retained : List String := []
  emitLlvmIr : Bool := true
  emitAsm : Bool := true
  /-- Other kinds to emit, with the path that was given. -/
  otherEmits : List Setting := []
  llvmIrPath : Option String := none
  asmPath : Option String := none
  /-- Codegen options in the order in which they were first seen. -/
  codegen : List Setting := []
  optimize : Bool := false
  /-- Only print IR changes of functions that match this. -/
  filter : Option String := none
  deriving DecidableEq, Repr

namespace Flags

def emits (flags : Flags) : Artifact → Bool
  | .llvmIr => flags.emitLlvmIr
  | .asm => flags.emitAsm

def setEmits (flags : Flags) (artifact : Artifact) (emit : Bool) : Flags :=
  match artifact with
  | .llvmIr => { flags with emitLlvmIr := emit }
  | .asm => { flags with emitAsm := emit }

def emitPath (flags : Flags) : Artifact → Option String
  | .llvmIr => flags.llvmIrPath
  | .asm => flags.asmPath

def setEmitPath (flags : Flags) (artifact : Artifact) (path : String) : Flags :=
  match artifact with
  | .llvmIr => { flags with llvmIrPath := some path }
  | .asm => { flags with asmPath := some path }

/-- The kinds that an emission lists between commas. -/
def emitItems (kinds : String) : List Setting :=
  (kinds.toList.splitOn ',').map fun item =>
    Setting.ofString (Text.strip (String.ofList item))

/-- Records one kind to emit. The first path of another kind stays, the last path of an artifact
counts. -/
def recordItem (flags : Flags) (item : Setting) : Flags :=
  if item.key = "" then flags
  else
    match Artifact.ofName? item.key with
    | some artifact =>
      match item.value with
      | some path => (flags.setEmits artifact true).setEmitPath artifact path
      | none => flags.setEmits artifact true
    | none =>
      if flags.otherEmits.any (·.key = item.key) then flags
      else { flags with otherEmits := flags.otherEmits ++ [item] }

def recordEmit (flags : Flags) (kinds : String) : Flags := (emitItems kinds).foldl recordItem flags

def addCodegen (flags : Flags) (option : Setting) : Flags :=
  { flags with codegen := addOption flags.codegen option }

def setCodegen (flags : Flags) (key : String) (value : Option String) : Flags :=
  { flags with codegen := setOption key value flags.codegen }

/-! ## Its arguments -/

def emitSetting (flags : Flags) (artifact : Artifact) : Setting :=
  ⟨artifact.name, flags.emitPath artifact⟩

/-- All kinds to emit, LLVM IR and assembly last. -/
def emitSettings (flags : Flags) : List Setting :=
  flags.otherEmits ++ (Artifact.all.filter flags.emits).map flags.emitSetting

def emitKinds (flags : Flags) : List String := flags.emitSettings.map Setting.text

/-- What makes LLVM print the changes of some functions only. -/
def filterDirective (pattern : String) : String := "-filter-print-funcs=" ++ pattern

/-- The codegen options with the filter among those for LLVM. -/
def codegenOptions (flags : Flags) : List Setting :=
  match flags.filter with
  | none => flags.codegen
  | some pattern => addOption flags.codegen ⟨llvmArgs, some (filterDirective pattern)⟩

def emitArgs (flags : Flags) : List String :=
  if flags.emitKinds.isEmpty then [] else ["--emit", ",".intercalate flags.emitKinds]

def codegenArgs (flags : Flags) : List String :=
  flags.codegenOptions.flatMap fun option => ["-C", option.text]

/-- Arguments that ask for this state. -/
def synthesize (flags : Flags) : List String :=
  flags.retained ++ flags.emitArgs ++ flags.codegenArgs ++ if flags.optimize then ["-O"] else []

/-! ## What the operations change -/

@[simp] theorem emits_setEmits_self (flags : Flags) (a : Artifact) (b : Bool) :
    (flags.setEmits a b).emits a = b := by cases a <;> rfl

@[simp] theorem emitPath_setEmitPath_self (flags : Flags) (a : Artifact) (p : String) :
    (flags.setEmitPath a p).emitPath a = some p := by cases a <;> rfl

@[simp] theorem emits_setEmitPath (flags : Flags) (a b : Artifact) (p : String) :
    (flags.setEmitPath a p).emits b = flags.emits b := by cases a <;> cases b <;> rfl

@[simp] theorem emitPath_setEmits (flags : Flags) (a b : Artifact) (e : Bool) :
    (flags.setEmits a e).emitPath b = flags.emitPath b := by cases a <;> cases b <;> rfl

end Flags

end CompilerCommands.Rustc
