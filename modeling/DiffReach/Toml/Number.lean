import DiffReach.Toml.Escape
import DiffReach.Value

namespace DiffReach.Toml

open Text

def hasDouble (c d : Char) : List Char → Bool
  | a :: b :: rest => (a == c && b == d) || hasDouble c d (b :: rest)
  | _ => false

def isStrict (v : List Char) : Bool :=
  match trim v with
  | [] => false
  | [c] => c != '_'
  | a :: b :: rest =>
      let n := a :: b :: rest
      let unsigned := if a == '+' || a == '-' then b :: rest else n
      a != '_' && n.getLast? != some '_' && !hasDouble '_' '.' n && !hasDouble '.' '_' n
        && (a != '0' || ['.', 'o', 'b', 'x'].elem b)
        && !((a == '+' || a == '-') && !rest.isEmpty && b == '0' && rest.head? != some '.')
        && !hasDouble '_' '_' unsigned

def plainDigit (c : Char) : Char :=
  match digitValue? c with
  | some d => Char.ofNat (0x30 + d)
  | none => c

def baseOf? (mark : Char) : Option Nat :=
  let m := mark.toLower
  if m = 'x' then some 16 else if m = 'o' then some 8 else if m = 'b' then some 2 else none

def decimal? (cs : List Char) : Option Nat := do
  let ds ← Numeral.digits? cs
  if ds.head? == some 0 && ds.any (· != 0) then none else (Numeral.natural ds).toOption

def magnitude? (cs : List Char) : Option Nat :=
  match cs with
  | '0' :: mark :: rest =>
      match baseOf? mark with
      | some base => if rest.isEmpty then none else valueIn? base rest
      | none => decimal? cs
  | cs => decimal? cs

def integer? (cs : List Char) : Option Int :=
  let (negative, body) := Numeral.takeSign ((dropBoth isMargin cs).map plainDigit)
  (magnitude? body).map fun n => if negative then -(n : Int) else (n : Int)

def isFloat (cs : List Char) : Bool :=
  cs.elem '.' || (!cs.elem 'x' && (cs.elem 'e' || cs.elem 'E'))

def isNamedFloat (cs : List Char) : Bool :=
  Numeral.isWordOf "inf".toList cs || Numeral.isWordOf "nan".toList cs

def float? (cs : List Char) : Option Binary64 :=
  let digitFirst := (cs.head?.map Char.isDigit).getD false
  if digitFirst && (cs.dropWhile (· != '.')) != ['.'] then Numeral.real? (String.ofList cs)
  else none

def number? (v : List Char) : Option Value :=
  let (negative, signless) := Numeral.takeSign v
  let body := signless.filter (· != '_')
  if isFloat body then
    (float? body).map fun x => .float (if negative then x.fromZero else x)
  else if isNamedFloat body then
    (Numeral.real? (String.ofList body)).map fun x => .float (if negative then x.fromZero else x)
  else
    (integer? body).map fun n => .int (if negative then -n else n)

def numberAt? (start stop : Nat) (cs : List Char) : Option Int :=
  (Numeral.integer (String.ofList ((cs.take stop).drop start))).toOption

def offset? (cs : List Char) : Option Int :=
  if cs = ['Z'] then some 0
  else do
    let hours ← numberAt? 1 3 cs
    let minutes ← numberAt? 4 6 cs
    let total := 60 * hours + minutes
    some (if cs.head? = some '-' then -total else total)

def micros? (cs : List Char) : Option Int := do
  let n ← (Numeral.integer (String.ofList cs)).toOption
  some (if cs.length ≤ 6 then n * (Nat.pow 10 (6 - cs.length) : Nat)
    else n.tdiv (Nat.pow 10 (cs.length - 6) : Nat))

def fraction? (cs : List Char) : Option (Int × Option Int) :=
  match cs.getLast? with
  | none => none
  | some last =>
      if last = 'Z' || last = 'z' then (micros? cs.dropLast).map fun n => (n, some 0)
      else
        let sign := if cs.elem '+' then '+' else '-'
        match cs.dropWhile (· != sign) with
        | [] => (micros? cs).map fun n => (n, none)
        | offset => do
            let minutes ← offset? offset
            let n ← micros? (cs.takeWhile (· != sign))
            some (n, some minutes)

def trailer (cs : List Char) : Int × Option Int :=
  match cs with
  | [] => (0, none)
  | '.' :: rest => (fraction? rest).getD (0, none)
  | rest => (0, offset? rest)

def day? (v : List Char) : Option Moment :=
  if !(v.drop 1).elem '-' then none
  else do
    let day ← Moment.day? (← numberAt? 0 4 v) (← numberAt? 5 7 v) (← numberAt? 8 10 v)
    if v.length = 10 then some (.day day)
    else
      let (micro, offset) := trailer (v.drop 19)
      let clock ← Moment.clock? (← numberAt? 11 13 v) (← numberAt? 14 16 v) (← numberAt? 17 19 v)
        micro
      some (.stamp day clock offset)

def clockNumbers? (v : List Char) : Option (Nat × Nat × Nat × Nat) :=
  match v with
  | a :: b :: ':' :: d :: e :: ':' :: g :: h :: rest =>
      if [a, b, d, e, g, h].all Char.isDigit then
        let pair := fun (x y : Char) => 10 * (x.toNat - 0x30) + (y.toNat - 0x30)
        let digits := match rest with
          | '.' :: rest => (rest.takeWhile Char.isDigit).take 6
          | _ => []
        let micro := if digits.length < 3 then 0 else (valueIn? 10 digits).getD 0
        some (pair a b, pair d e, pair g h, micro)
      else none
  | _ => none

end DiffReach.Toml
