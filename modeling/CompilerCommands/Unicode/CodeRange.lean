/-!
# Sets of characters as ranges of code points

A table lists closed ranges in increasing order. Membership tries every range, so it depends on
the ranges alone and not on their order.
-/

namespace CompilerCommands.Unicode

/-- Closed ranges of code points. -/
abbrev RangeTable := List (Nat × Nat)

namespace RangeTable

def holds (table : RangeTable) (c : Char) : Bool :=
  table.any fun (first, last) => decide (first ≤ c.toNat) && decide (c.toNat ≤ last)

end RangeTable

end CompilerCommands.Unicode
