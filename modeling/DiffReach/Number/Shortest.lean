import DiffReach.Number.Binary64

namespace DiffReach.Binary64

def digitCount (n : Nat) : Nat :=
  (Nat.toDigits 10 n).length

def floorLog10 (n d : Nat) : Int :=
  if d ≤ n then (digitCount (n / d) : Int) - 1 else -(digitCount ((d - 1) / n) : Int)

/-- The reals that round to a number, which is four times its coefficient on the scale of the ends.
-/
structure Interval where
  low : Nat
  middle : Nat
  high : Nat
  closed : Bool

def interval (coefficient : Nat) (exponent : Int) : Interval where
  low := if coefficient = leastFull ∧ -1074 < exponent then 4 * coefficient - 1
    else 4 * coefficient - 2
  middle := 4 * coefficient
  high := 4 * coefficient + 2
  closed := coefficient % 2 == 0

/-- Whether a grid point lies in the interval, one step of which is a quotient of grid steps. -/
def Interval.admits (i : Interval) (unit : Nat × Nat) (point : Nat) : Bool :=
  if i.closed then
    decide (i.low * unit.1 ≤ point * unit.2) && decide (point * unit.2 ≤ i.high * unit.1)
  else
    decide (i.low * unit.1 < point * unit.2) && decide (point * unit.2 < i.high * unit.1)

def Interval.nearest? (i : Interval) (unit : Nat × Nat) : Option Nat :=
  let below := i.middle * unit.1 / unit.2
  let above := below + 1
  match i.admits unit below, i.admits unit above with
  | true, false => some below
  | false, true => some above
  | false, false => none
  | true, true =>
      let toBelow := i.middle * unit.1 - below * unit.2
      let toAbove := above * unit.2 - i.middle * unit.1
      if toBelow < toAbove then some below
      else if toAbove < toBelow then some above
      else if below % 2 = 0 then some below else some above

/-- Tries the grids from the given count of digits on, for as many counts as are left. -/
def Interval.firstHit (i : Interval) (exponent top : Int) : Nat → Nat → Nat × Int
  | 0, _ => (0, 0)
  | left + 1, count =>
      let grid := top + 1 - count
      match i.nearest? (scale 10 (-grid) (scale 2 (exponent - 2) (1, 1))) with
      | some point => (point, grid)
      | none => firstHit i exponent top left (count + 1)

/-- The fewest digits that read back as a positive finite number, as an integer, and their power of
ten. Of two neighbours of the number on a decimal grid the nearer counts, of two equally near ones
the even one. -/
def shortest (coefficient : Nat) (exponent : Int) : Nat × Int :=
  let (n, d) := scale 2 exponent (coefficient, 1)
  (interval coefficient exponent).firstHit exponent (floorLog10 n d) 17 1

end DiffReach.Binary64
