/-!
# Binary64 values as whole numbers

A finite value of magnitude `units` is `units · 2⁻¹⁰⁷⁴`: every finite value is a whole number of
the smallest one.
-/

namespace CompilerCommands.Decimal

/-- What the bits of a binary64 number stand for. -/
inductive Binary64 where
  | finite (negative : Bool) (significand scale : Nat)
  | infinite (negative : Bool)
  | nan
  deriving DecidableEq, Repr

namespace Binary64

/-- A finite value of significand `m` and scale `s` is `m · 2ˢ` smallest values. -/
def units (significand scale : Nat) : Nat := significand * Nat.pow 2 scale

theorem units_pos {significand : Nat} (h : 0 < significand) (scale : Nat) :
    0 < units significand scale :=
  Nat.mul_pos h (Nat.pow_pos (Nat.succ_pos 1))

/-- The significand that the leading bit alone makes. -/
def leadingBit : Nat := 0x10000000000000

def ofBits (bits : Nat) : Binary64 :=
  let negative := bits / 0x8000000000000000 % 2 == 1
  let exponent := bits / leadingBit % 0x800
  let fraction := bits % leadingBit
  if exponent = 0x7FF then if fraction = 0 then infinite negative else nan
  else if exponent = 0 then finite negative fraction 0
  else finite negative (leadingBit + fraction) (exponent - 1)

def ofFloat (x : Float) : Binary64 := ofBits x.toBits.toNat

example : ofBits 0x3FF0000000000000 = finite false leadingBit 1022 := by decide
example : ofBits 0x8000000000000000 = finite true 0 0 := by decide

end Binary64

end CompilerCommands.Decimal
