import DiffReach.Fault
import DiffReach.Number.Binary64
import DiffReach.Text.Character

namespace DiffReach.Numeral

open Text

def maxDigits : Nat := 4300

def digitsFrom (afterDigit : Bool) : List Char → Option (List Nat)
  | [] => if afterDigit then some [] else none
  | c :: cs =>
      if c = '_' then if afterDigit then digitsFrom false cs else none
      else match digitValue? c with
        | some d => (digitsFrom true cs).map (d :: ·)
        | none => none

def digits? (cs : List Char) : Option (List Nat) :=
  digitsFrom false cs

def optionalDigits? : List Char → Option (List Nat)
  | [] => some []
  | c :: cs => digitsFrom false (c :: cs)

def takeSign : List Char → Bool × List Char
  | '-' :: cs => (true, cs)
  | '+' :: cs => (false, cs)
  | cs => (false, cs)

def natural (ds : List Nat) : Except Fault Nat :=
  if maxDigits < ds.length then .error .tooManyDigits else .ok (Binary64.valueOf ds)

def integer (s : String) : Except Fault Int :=
  let (negative, body) := takeSign (dropBoth isMargin s.toList)
  match digits? body with
  | none => .error .notNumeral
  | some ds => (natural ds).map fun n => if negative then -(n : Int) else (n : Int)

def cut (p : Char → Bool) (cs : List Char) : List Char × Option (List Char) :=
  match cs.dropWhile (fun c => !p c) with
  | [] => (cs, none)
  | _ :: rest => (cs.takeWhile (fun c => !p c), some rest)

def isWordOf (word : List Char) (cs : List Char) : Bool :=
  (cs.map Char.toLower) == word

def exponent? : Option (List Char) → Option Int
  | none => some 0
  | some cs =>
      let (negative, body) := takeSign cs
      (digits? body).map fun ds =>
        let n : Int := Binary64.valueOf ds
        if negative then -n else n

def decimal? (negative : Bool) (cs : List Char) : Option Binary64 :=
  let (mantissa, power) := cut (fun c => c == 'e' || c == 'E') cs
  let (whole, fraction) := cut (· == '.') mantissa
  match optionalDigits? whole, optionalDigits? (fraction.getD []), exponent? power with
  | some ws, some fs, some e =>
      if ws.isEmpty && fs.isEmpty then none
      else some (Binary64.ofDecimal negative (ws ++ fs) (e - fs.length))
  | _, _, _ => none

def real? (s : String) : Option Binary64 :=
  let (negative, body) := takeSign (dropBoth isMargin s.toList)
  if isWordOf "inf".toList body || isWordOf "infinity".toList body then some (.infinite negative)
  else if isWordOf "nan".toList body then some .nan
  else decimal? negative body

end DiffReach.Numeral
