namespace DiffReach

/-- A finite number is its coefficient times a power of two. The coefficient is below 2^53 and the
exponent at least -1074, and of the exponents that allow this the least is taken. -/
inductive Binary64 where
  | nan
  | infinite (negative : Bool)
  | finite (negative : Bool) (coefficient : Nat) (exponent : Int)
  deriving DecidableEq

namespace Binary64

/-- The quotient to the nearest integer, a half to the even one. -/
def roundDiv (n d : Nat) : Nat :=
  if 2 * (n % d) < d then n / d
  else if d < 2 * (n % d) then n / d + 1
  else if n / d % 2 = 0 then n / d else n / d + 1

def scale (base : Nat) (power : Int) (q : Nat × Nat) : Nat × Nat :=
  if 0 ≤ power then (q.1 * Nat.pow base power.toNat, q.2)
  else (q.1, q.2 * Nat.pow base power.natAbs)

def floorLog2 (n d : Nat) : Int :=
  let guess : Int := (n.log2 : Int) - (d.log2 : Int)
  let (n', d') := scale 2 (-guess) (n, d)
  if d' ≤ n' then guess else guess - 1

def zero (negative : Bool) : Binary64 :=
  .finite negative 0 (-1074)

/-- The least coefficient with all 53 bits. -/
def leastFull : Nat := 4503599627370496

/-- The coefficient with its exponent, a coefficient of 54 bits being the next power of two. -/
def settle (negative : Bool) (coefficient : Nat) (exponent : Int) : Binary64 :=
  if coefficient = 2 * leastFull then
    if 971 < exponent + 1 then .infinite negative else .finite negative leastFull (exponent + 1)
  else if 971 < exponent then .infinite negative
  else .finite negative coefficient exponent

def ofRatio (negative : Bool) (n d : Nat) : Binary64 :=
  if n = 0 then zero negative
  else
    let exponent := max (floorLog2 n d - 52) (-1074)
    let (n', d') := scale 2 (-exponent) (n, d)
    settle negative (roundDiv n' d') exponent

def valueOf (digits : List Nat) : Nat :=
  digits.foldl (fun n d => 10 * n + d) 0

/-- The number nearest to the digits, read as an integer, times a power of ten. Magnitudes far
outside the range are decided by the count of digits alone. -/
def ofDecimal (negative : Bool) (digits : List Nat) (power : Int) : Binary64 :=
  let significant := digits.dropWhile (· == 0)
  let magnitude := power + significant.length
  if significant.isEmpty || magnitude < -400 then zero negative
  else if 400 < magnitude then .infinite negative
  else
    let (n, d) := scale 10 power (valueOf significant, 1)
    ofRatio negative n d

def ofInt? (n : Int) : Option Binary64 :=
  match ofRatio (n < 0) n.natAbs 1 with
  | .finite negative coefficient exponent => some (.finite negative coefficient exponent)
  | _ => none

def truncate (negative : Bool) (coefficient : Nat) (exponent : Int) : Int :=
  let (n, d) := scale 2 exponent (coefficient, 1)
  if negative then -((n / d : Nat) : Int) else ((n / d : Nat) : Int)

def isZero : Binary64 → Bool
  | .finite _ coefficient _ => coefficient == 0
  | _ => false

/-- Whether a number is at most zero; what is no number is not. -/
def atMostZero : Binary64 → Bool
  | .nan => false
  | .infinite negative => negative
  | .finite negative coefficient _ => negative || coefficient == 0

def quotient (negative : Bool) (coefficient : Nat) (exponent : Int) : Int × Nat :=
  let (n, d) := scale 2 exponent (coefficient, 1)
  (if negative then -(n : Int) else (n : Int), d)

def isAbove (m : Int) : Binary64 → Bool
  | .nan => false
  | .infinite negative => !negative
  | .finite negative coefficient exponent =>
      let (n, d) := quotient negative coefficient exponent
      decide (m * d < n)

def isBelow (m : Int) : Binary64 → Bool
  | .nan => false
  | .infinite negative => negative
  | .finite negative coefficient exponent =>
      let (n, d) := quotient negative coefficient exponent
      decide (n < m * d)

/-- Zero minus a number, which is never the negative zero. -/
def fromZero : Binary64 → Binary64
  | .nan => .nan
  | .infinite negative => .infinite !negative
  | .finite negative coefficient exponent =>
      if coefficient = 0 then zero false else .finite (!negative) coefficient exponent

end Binary64

end DiffReach
