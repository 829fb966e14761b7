import CompilerCommands.Text.Basic

/-!
# White space

The characters that separate words on a page in any script: those that Unicode 14 calls white
space, and the four information separators.
-/

namespace CompilerCommands.Text

/-- White space of any script. -/
def isBlank (c : Char) : Bool :=
  let n := c.toNat
  decide (0x09 ≤ n ∧ n ≤ 0x0D) || decide (0x1C ≤ n ∧ n ≤ 0x20) || n == 0x85 || n == 0xA0 ||
    n == 0x1680 || decide (0x2000 ≤ n ∧ n ≤ 0x200A) || n == 0x2028 || n == 0x2029 ||
    n == 0x202F || n == 0x205F || n == 0x3000

def strip (s : String) : String := String.ofList (trim isBlank s.toList)

def stripEnd (s : String) : String := String.ofList (dropEndWhile isBlank s.toList)

end CompilerCommands.Text
