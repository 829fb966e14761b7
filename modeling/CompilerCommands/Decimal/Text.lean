import CompilerCommands.Decimal.Shortest

/-!
# Decimal text of a binary64 number

The digits are the fewest that read back; a `Layout` decides where the exponent is written out.
-/

namespace CompilerCommands.Decimal

/-- Numbers whose first digit stands at a power of ten from `least` to `most` are written without
an exponent. Others have an exponent with a sign and at least `exponentDigits` digits. -/
structure Layout where
  least : Int
  most : Int
  exponentDigits : Nat

/-- `n` in decimal, with zeros in front up to `width` digits. -/
def padded (width n : Nat) : List Char :=
  let digits := Nat.toDigits 10 n
  List.replicate (width - digits.length) '0' ++ digits

/-- A decimal whose first digit stands at `10^top`, written with a point. -/
def positional (digits : List Char) (top : Int) : List Char :=
  if top < 0 then '0' :: '.' :: List.replicate (-top - 1).toNat '0' ++ digits
  else
    let whole := top.toNat + 1
    let fraction := digits.drop whole
    digits.take whole ++ List.replicate (whole - digits.length) '0' ++ '.' ::
      (if fraction.isEmpty then ['0'] else fraction)

def scientific (layout : Layout) (digits : List Char) (top : Int) : List Char :=
  let fraction := digits.drop 1
  digits.take 1 ++ (if fraction.isEmpty then [] else '.' :: fraction) ++
    'e' :: (if top < 0 then '-' else '+') :: padded layout.exponentDigits top.natAbs

def magnitude (layout : Layout) (significand scale : Nat) : List Char :=
  if significand = 0 then ['0', '.', '0']
  else
    let (c, k) := shortest significand scale
    let digits := Nat.toDigits 10 c
    let top := k + digits.length - 1
    if layout.least ≤ top ∧ top ≤ layout.most then positional digits top
    else scientific layout digits top

def signed (negative : Bool) (cs : List Char) : List Char := if negative then '-' :: cs else cs

def text (layout : Layout) (x : Float) : String :=
  match Binary64.ofFloat x with
  | .finite negative m s => String.ofList (signed negative (magnitude layout m s))
  | .infinite negative => String.ofList (signed negative ['i', 'n', 'f'])
  | .nan => "nan"

end CompilerCommands.Decimal
