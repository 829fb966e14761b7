import CompilerCommands.Path.Posix

/-!
# Windows file names

What comes before the components of a Windows path is a drive letter, a network share, or one of
them in the extended form that begins with `\\?\`, and then a root. None of it is part of a name.
-/

namespace CompilerCommands.WindowsPath

/-- A path after the mark of the extended form. An extended network share is as a plain one. -/
def dropExtendedMark (cs : List Char) : List Char :=
  match "\\\\?\\".toList.isPrefixOf? cs with
  | none => cs
  | some rest =>
    match "UNC\\".toList.isPrefixOf? rest with
    | none => rest
    | some share => '\\' :: '\\' :: share

/-- The components after `\\server\share`, if the path begins with one. -/
def afterShare? : List Char → Option (List Char)
  | '\\' :: '\\' :: rest =>
    if rest.head? = some '\\' then none
    else match Text.cut '\\' rest with
      | (_, none) => none
      | (_, some share) =>
        if share.head? = some '\\' then none else some ((Text.cut '\\' share).2.getD [])
  | _ => none

/-- The components after a drive letter and its colon. -/
def dropDrive : List Char → List Char
  | letter :: ':' :: rest => if letter.isAlpha then rest else letter :: ':' :: rest
  | cs => cs

/-- The components of a path, behind drive and root. -/
def components (cs : List Char) : List (List Char) :=
  let part := dropExtendedMark cs
  let below := match afterShare? part with
    | some rest => rest
    | none => (dropDrive part).dropWhile (· == '\\')
  (below.splitOn '\\').filter Path.isComponent

/-- The last component of a path without slashes, or nothing. -/
def name (s : String) : String := String.ofList ((components s.toList).getLast?.getD [])

example : name "C:\\llvm\\clang.exe" = "clang.exe" := by decide +kernel
example : name "\\\\host\\share" = "" := by decide +kernel

end CompilerCommands.WindowsPath
