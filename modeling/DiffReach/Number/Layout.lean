import DiffReach.Number.Shortest

namespace DiffReach.Binary64

structure Layout where
  least : Int
  greatest : Int
  exponentDigits : Nat

/-- Positional notation from a ten-thousandth to below ten to the sixteenth. -/
def plain : Layout :=
  ⟨-4, 15, 2⟩

def zeros (n : Nat) : List Char :=
  List.replicate n '0'

def padded (width : Nat) (n : Nat) : List Char :=
  let ds := Nat.toDigits 10 n
  zeros (width - ds.length) ++ ds

/-- Digits with a point after as many of them as the exponent says; one digit follows the point. -/
def positional (ds : List Char) (exponent : Int) : List Char :=
  if exponent < 0 then '0' :: '.' :: (zeros (exponent.natAbs - 1) ++ ds)
  else
    let whole := exponent.toNat + 1
    if ds.length ≤ whole then ds ++ zeros (whole - ds.length) ++ ['.', '0']
    else ds.take whole ++ '.' :: ds.drop whole

def scientific (layout : Layout) (ds : List Char) (exponent : Int) : List Char :=
  let mantissa := match ds with
    | [] => []
    | [d] => [d]
    | d :: rest => d :: '.' :: rest
  mantissa ++ 'e' :: (if exponent < 0 then '-' else '+') ::
    padded layout.exponentDigits exponent.natAbs

def layOut (layout : Layout) (point : Nat) (power : Int) : List Char :=
  let all := Nat.toDigits 10 point
  let exponent := power + all.length - 1
  let ds := (all.reverse.dropWhile (· == '0')).reverse
  if layout.least ≤ exponent ∧ exponent ≤ layout.greatest then positional ds exponent
  else scientific layout ds exponent

def signed (negative : Bool) (cs : List Char) : List Char :=
  if negative then '-' :: cs else cs

def chars : Binary64 → List Char
  | .nan => ['n', 'a', 'n']
  | .infinite negative => signed negative ['i', 'n', 'f']
  | .finite negative coefficient exponent =>
      if coefficient = 0 then signed negative ['0', '.', '0']
      else
        let (point, power) := shortest coefficient exponent
        signed negative (layOut plain point power)

def text (x : Binary64) : String :=
  String.ofList x.chars

end DiffReach.Binary64
