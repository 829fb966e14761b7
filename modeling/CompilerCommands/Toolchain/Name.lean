import CompilerCommands.Path.Windows
import CompilerCommands.Text.Lowercase
import CompilerCommands.Unicode.Digit
import CompilerCommands.Unicode.Word

/-!
# Names of tools

A tool is known by the name of its executable, without directories of either kind and without
`.exe`. A name is read as parts between hyphens: compilers may carry a target in front and a
version behind.
-/

namespace CompilerCommands.Toolchain

def baseName (executable : String) : String :=
  let name := WindowsPath.name (Path.ofString executable).name
  if Text.ends ".exe" (Text.lower name) then String.ofList (name.toList.take (name.length - 4))
  else name

/-- Groups of digits between dots. -/
def isVersion (cs : List Char) : Bool :=
  (cs.splitOn '.').all fun group => !group.isEmpty && group.all Unicode.isDigit

def isTargetPart (cs : List Char) : Bool :=
  !cs.isEmpty && cs.all fun c => Unicode.isWord c || c == '.'

def isClangWord (cs : List Char) : Bool := cs == "clang".toList || cs == "clang++".toList

def isGccWord (cs : List Char) : Bool := cs == "gcc".toList || cs == "g++".toList

/-- `clang` or `clang++`, and maybe a version. -/
def isClangName (cs : List Char) : Bool :=
  match cs.splitOn '-' with
  | [word] => isClangWord word
  | [word, version] => isClangWord word && isVersion version
  | _ => false

/-- Parts of a target, then `gcc` or `g++`, and maybe a version. -/
def isGccName (cs : List Char) : Bool :=
  match (cs.splitOn '-').reverse with
  | [] => false
  | last :: front =>
    isGccWord last && front.all isTargetPart ||
      isVersion last && match front with
        | [] => false
        | word :: target => isGccWord word && target.all isTargetPart

/-- `p` holds of a name or of the name before a line feed at its end. -/
def upToLineFeed (p : List Char → Bool) (cs : List Char) : Bool :=
  p cs || cs.getLast? == some '\n' && p cs.dropLast

example : isGccName "x86_64-linux-gnu-g++-12.1".toList = true := by decide +kernel
example : isGccName "-gcc".toList = false := by decide +kernel

end CompilerCommands.Toolchain
