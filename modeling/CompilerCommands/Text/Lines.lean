/-!
# Lines

A line ends at any vertical separator of Unicode or at one of three information separators; a
carriage return and the line feed after it count as one end. The end of the last line may be
missing.
-/

namespace CompilerCommands.Text

def isLineEnd (c : Char) : Bool :=
  let n := c.toNat
  decide (0x0A ≤ n ∧ n ≤ 0x0D) || decide (0x1C ≤ n ∧ n ≤ 0x1E) || n == 0x85 || n == 0x2028 ||
    n == 0x2029

def consLine (c : Char) : List (List Char) → List (List Char)
  | [] => [[c]]
  | line :: rest => (c :: line) :: rest

/-- The lines of a text, without their ends. A carriage return before a line feed leaves the end of
the line to it. -/
def lineList : List Char → List (List Char)
  | [] => []
  | c :: rest =>
    if c = '\r' ∧ rest.head? = some '\n' then lineList rest
    else if isLineEnd c then [] :: lineList rest
    else consLine c (lineList rest)

def lines (s : String) : List String := (lineList s.toList).map String.ofList

theorem lineList_of_no_end {cs : List Char} (hne : cs ≠ []) (h : ∀ c ∈ cs, isLineEnd c = false) :
    lineList cs = [cs] := by
  induction cs with
  | nil => exact absurd rfl hne
  | cons c rest ih =>
    have hc : isLineEnd c = false := h c (by simp)
    have hr : c ≠ '\r' := by rintro rfl; exact absurd hc (by decide)
    have hrest : ∀ d ∈ rest, isLineEnd d = false := fun d hd => h d (by simp [hd])
    rw [lineList, if_neg (fun h => hr h.1), hc]
    cases rest with
    | nil => simp [lineList, consLine]
    | cons d rest => simp [ih (by simp) hrest, consLine]

end CompilerCommands.Text
