import CompilerCommands.Decimal.Text

/-!
# Time

Time is counted in ticks of `2⁻¹⁰⁷⁴` ms, so that every finite number of seconds, thousandths of it
and their sums are whole numbers of ticks.
-/

namespace CompilerCommands

abbrev Ticks := Nat

namespace Ticks

def perMillisecond : Nat := Decimal.Binary64.units 1 1074

def ofMilliseconds (ms : Nat) : Ticks := ms * perMillisecond

/-- The milliseconds nearest to a time, the even number of two that are equally near. -/
def toMilliseconds (t : Ticks) : Nat :=
  let whole := t / perMillisecond
  let rest := t % perMillisecond
  if 2 * rest < perMillisecond then whole
  else if perMillisecond < 2 * rest then whole + 1
  else if whole % 2 = 0 then whole else whole + 1

theorem perMillisecond_pos : 0 < perMillisecond := Decimal.Binary64.units_pos Nat.one_pos 1074

end Ticks

/-- How long to wait for a process: as it is written in messages, and in ticks. Without ticks the
time never comes. -/
structure TimeLimit where
  text : String
  ticks : Option Ticks
  deriving DecidableEq, Repr

namespace TimeLimit

/-- Seconds in messages have an exponent from `10¹⁶` up and below `10⁻⁴`. -/
def layout : Decimal.Layout := ⟨-4, 15, 2⟩

/-- The ticks of a number of seconds. A time that is past comes at once. -/
def ticksOf (x : Float) : Option Ticks :=
  match Decimal.Binary64.ofFloat x with
  | .finite true _ _ => some 0
  | .finite false significand scale => some (1000 * Decimal.Binary64.units significand scale)
  | .infinite true => some 0
  | .infinite false => none
  | .nan => none

def ofSeconds (x : Float) : TimeLimit := ⟨Decimal.text layout x, ticksOf x⟩

end TimeLimit

end CompilerCommands
