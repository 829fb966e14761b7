import CompilerCommands.Decimal.Binary64

/-!
# The fewest digits that read back

Of the decimal numbers that round to a given binary64 value, `shortest` takes one on the coarsest
power of ten that has any, and of two on that grid the nearer one.

All comparisons are made in units of a quarter of the smallest value, where the value and both
ends of the interval that rounds to it are whole.
-/

namespace CompilerCommands.Decimal

/-- A significand and scale with the ends of the interval that rounds to them, in units of
`2⁻¹⁰⁷⁶`. The ends belong to the interval if `closed`. -/
structure Rounding where
  value : Nat
  low : Nat
  high : Nat
  closed : Bool

/-- The numbers that round to `significand · 2^scale` smallest values. The neighbour below a power
of two is only half as far away. -/
def Rounding.of (significand scale : Nat) : Rounding where
  value := Binary64.units (4 * significand) scale
  low := Binary64.units
    (4 * significand - if significand = Binary64.leadingBit ∧ 0 < scale then 1 else 2) scale
  high := Binary64.units (4 * significand + 2) scale
  closed := significand % 2 == 0

/-- One, in units of `2⁻¹⁰⁷⁶`. -/
def one : Nat := Binary64.units 1 1076

/-- `n` units and the step `10^k`, both scaled to whole numbers. -/
def onGrid (n : Nat) (k : Int) : Nat := n * Nat.pow 10 (-k).toNat

def gridStep (k : Int) : Nat := one * Nat.pow 10 k.toNat

/-- The interval holds `c · 10^k`. -/
def Rounding.holds (r : Rounding) (c : Nat) (k : Int) : Bool :=
  let x := c * gridStep k
  if r.closed then decide (onGrid r.low k ≤ x ∧ x ≤ onGrid r.high k)
  else decide (onGrid r.low k < x ∧ x < onGrid r.high k)

/-- The multiple of `10^k` nearest to the value among those in its interval, the even one of two
that are equally near. -/
def Rounding.nearest? (r : Rounding) (k : Int) : Option Nat :=
  let n := onGrid r.value k
  let step := gridStep k
  let below := n / step
  let gapBelow := n - below * step
  let gapAbove := (below + 1) * step - n
  match r.holds below k, r.holds (below + 1) k with
  | true, false => some below
  | false, true => some (below + 1)
  | false, false => none
  | true, true =>
    if gapBelow < gapAbove then some below
    else if gapAbove < gapBelow then some (below + 1)
    else some (if below % 2 = 0 then below else below + 1)

/-- The power of ten of the first digit of a positive number of units, the leading zeros after the
point being counted one by one. -/
def leadingExponent (n : Nat) : Int :=
  if one ≤ n then ((Nat.toDigits 10 (n / one)).length : Int) - 1
  else
    match (List.range 400).find? fun j => decide (one ≤ n * Nat.pow 10 (j + 1)) with
    | some j => -((j : Int) + 1)
    | none => -400

/-- `c · 10^k` without zeros at the end of `c`; `fuel` bounds their number. -/
def dropZeros : Nat → Nat → Int → Nat × Int
  | 0, c, k => (c, k)
  | fuel + 1, c, k => if c ≠ 0 ∧ c % 10 = 0 then dropZeros fuel (c / 10) (k + 1) else (c, k)

/-- Digits `c` and exponent `k` of the shortest `c · 10^k` that rounds to a positive value.
Seventeen digits always suffice. -/
def shortest (significand scale : Nat) : Nat × Int :=
  let r := Rounding.of significand scale
  let top := leadingExponent r.value
  let hit := (List.range 17).findSome? fun (i : Nat) =>
    (r.nearest? (top - (i : Int))).map fun c => (c, top - (i : Int))
  let (c, k) := hit.getD (0, 0)
  dropZeros 20 c k

end CompilerCommands.Decimal
