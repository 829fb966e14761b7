import CompilerCommands.Unicode.Case

/-!
# Lower case

Characters change one by one, with two exceptions: a capital I with a dot becomes two characters,
and a capital sigma becomes a final sigma at the end of a word.
-/

namespace CompilerCommands.Text

open Unicode

/-- The nearest character that counts, case-ignorable ones being skipped, has a case. -/
def meetsCased (cs : List Char) : Bool :=
  match cs.find? (!isCaseIgnorable ·) with
  | some c => isCased c
  | none => false

/-- The lower-case form of `c` between `before`, nearest first, and `after`. -/
def lowerAt (before : List Char) (c : Char) (after : List Char) : List Char :=
  if c.toNat = 0x3A3 then
    if meetsCased before && !meetsCased after then [Char.ofNat 0x3C2] else [Char.ofNat 0x3C3]
  else if c.toNat = 0x130 then ['i', Char.ofNat 0x307]
  else [lowerChar c]

/-- Lower-cases a text that follows `before`, nearest first. -/
def lowerFrom (before : List Char) : List Char → List Char
  | [] => []
  | c :: after => lowerAt before c after ++ lowerFrom (c :: before) after

def lower (s : String) : String := String.ofList (lowerFrom [] s.toList)

end CompilerCommands.Text
