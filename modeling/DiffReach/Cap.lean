import DiffReach.Value

namespace DiffReach

/-- The first items up to a cap, or all but so many of the last ones if the cap is negative. -/
def capped {α : Type} (cap : Int) (xs : List α) : List α :=
  if 0 ≤ cap then xs.take cap.toNat else xs.take (xs.length - cap.natAbs)

namespace Value

def whole? : Value → Option Int
  | .int n => some n
  | .bool b => some (if b then 1 else 0)
  | _ => none

def cut {α : Type} (limit : Value) (xs : List α) : Except Fault (List α) :=
  match limit with
  | .null => .ok xs
  | v => match v.whole? with
      | some n => .ok (capped n xs)
      | none => .error .notSliceable

def allows (limit : Value) (n : Int) : Except Fault Bool :=
  match limit with
  | .float x => .ok (x.isAbove n)
  | v => match v.whole? with
      | some m => .ok (decide (n < m))
      | none => .error .notNumeric

def isExceededBy (limit : Value) (n : Int) : Except Fault Bool :=
  match limit with
  | .float x => .ok (x.isBelow n)
  | v => match v.whole? with
      | some m => .ok (decide (m < n))
      | none => .error .notNumeric

/-- How many of the counts from zero on stay below a limit; where all do, the given number. -/
def countBelow (limit : Value) (all : Nat) : Except Fault Nat :=
  match limit with
  | .float .nan => .ok 0
  | .float (.infinite negative) => .ok (if negative then 0 else all)
  | .float (.finite negative coefficient exponent) =>
      let (n, d) := Binary64.scale 2 exponent (coefficient, 1)
      .ok (if negative then 0 else (n + d - 1) / d)
  | v => match v.whole? with
      | some m => .ok m.toNat
      | none => .error .notNumeric

def wholePart (limit : Value) : Int :=
  match limit with
  | .float (.finite negative coefficient exponent) =>
      Binary64.truncate negative coefficient exponent
  | v => v.whole?.getD 0

end Value

end DiffReach
