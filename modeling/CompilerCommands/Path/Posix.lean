import CompilerCommands.Text.Basic

/-!
# POSIX paths

A path is a root and the components below it. Empty components and `.` say nothing and are
dropped when a path is read; `..` stays until `normalize` takes it together with the component
before it, whatever that is on disk.
-/

namespace CompilerCommands

/-- Where a path starts. Exactly two slashes are a root of their own. -/
inductive PathRoot where
  | relative
  | single
  | double
  deriving DecidableEq, Repr

def PathRoot.text : PathRoot → List Char
  | relative => []
  | single => ['/']
  | double => ['/', '/']

def PathRoot.ofChars (cs : List Char) : PathRoot :=
  match (cs.takeWhile (· == '/')).length with
  | 0 => relative
  | 2 => double
  | _ => single

structure Path where
  root : PathRoot
  parts : List String
  deriving DecidableEq, Repr

namespace Path

/-- Names something: a component that is neither empty nor a single dot. -/
def isComponent (cs : List Char) : Bool := !cs.isEmpty && cs != ['.']

def ofString (s : String) : Path where
  root := PathRoot.ofChars s.toList
  parts := ((s.toList.splitOn '/').filter isComponent).map String.ofList

/-- The path of a text; nothing at all is written as a dot. -/
def toString (p : Path) : String :=
  let cs := p.root.text ++ ['/'].intercalate (p.parts.map String.toList)
  if cs.isEmpty then "." else String.ofList cs

def isAbsolute (p : Path) : Bool := p.root != .relative

/-- `p` as seen from the directory `base`. -/
def join (base p : Path) : Path :=
  if p.isAbsolute then p else { base with parts := base.parts ++ p.parts }

def name (p : Path) : String := p.parts.getLast?.getD ""

/-- One component more: `kept` are the components before it, last first. Above an absolute root
there is nothing. -/
def climb (root : PathRoot) (kept : List String) (part : String) : List String :=
  if part ≠ ".." then part :: kept
  else match kept with
    | [] => if root = .relative then [part] else []
    | last :: front => if last = ".." then part :: kept else front

/-- Takes away each `..` with the component before it. -/
def normalize (p : Path) : Path where
  root := p.root
  parts := (p.parts.foldl (climb p.root) []).reverse

/-- The place that a text names as a path in the directory `dir`. -/
def locate (dir : Path) (s : String) : Path := (dir.join (ofString s)).normalize

theorem join_of_absolute {base p : Path} (h : p.isAbsolute = true) : base.join p = p := by
  simp [join, h]

theorem root_join_of_relative {base p : Path} (h : p.isAbsolute = false) :
    (base.join p).root = base.root := by
  simp [join, h]

theorem join_assoc (a b c : Path) : (a.join b).join c = a.join (b.join c) := by
  cases hc : c.isAbsolute <;> cases hb : b.isAbsolute <;> simp_all [join, isAbsolute]

example : (ofString "/a//b/./../c/").normalize.toString = "/a/c" := by decide +kernel
example : (ofString "//n/x").toString = "//n/x" := by decide +kernel
example : (ofString "").toString = "." := by decide +kernel

end Path

/-! ## Names -/

/-- `entry` in the directory `dir`, both as text: an absolute entry stands alone, and a slash is put
between them unless `dir` is empty or ends with one. -/
def joinText (dir entry : String) : String :=
  if Text.begins "/" entry then entry
  else if dir.isEmpty || Text.ends "/" dir then dir ++ entry
  else dir ++ "/" ++ entry

/-- A name without its extension: the part before the last dot, unless that dot is the first or
the last character. -/
def stemOf (name : List Char) : List Char :=
  match Text.cutLast '.' name with
  | some (before, after) => if before.isEmpty || after.isEmpty then name else before
  | none => name

def slashed (path : String) : String :=
  String.ofList (path.toList.map fun c => if c = '\\' then '/' else c)

/-- The name of a file without directories, separated either way, and without its extension. -/
def pathStem (path : String) : String :=
  String.ofList (stemOf (Path.ofString (slashed path)).name.toList)

/-- A path without the extension of its last component. Dots at the beginning of the component do
not start an extension. -/
def dropExtension (path : String) : String :=
  let cs := path.toList
  let (dir, file) := match Text.cutLast '/' cs with
    | some (before, after) => (before ++ ['/'], after)
    | none => ([], cs)
  match Text.cutLast '.' file with
  | some (before, _) => if before.all (· == '.') then path else String.ofList (dir ++ before)
  | none => path

end CompilerCommands
