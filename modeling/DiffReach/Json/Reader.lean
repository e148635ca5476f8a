import DiffReach.Value

namespace DiffReach.Json

inductive Error where
  | malformed
  | tooManyDigits
  | tooDeep
  deriving DecidableEq

structure Bounds where
  maxDigits : Nat
  maxDepth : Nat

def isSpace (c : Char) : Bool :=
  c == ' ' || c == '\t' || c == '\n' || c == '\r'

def skipSpace (cs : List Char) : List Char :=
  cs.dropWhile isSpace

def hexValue? (c : Char) : Option Nat :=
  if '0' ≤ c ∧ c ≤ '9' then some (c.toNat - 0x30)
  else if 'a' ≤ c ∧ c ≤ 'f' then some (c.toNat - 0x57)
  else if 'A' ≤ c ∧ c ≤ 'F' then some (c.toNat - 0x37)
  else none

def hexCode? (cs : List Char) : Option Nat :=
  cs.foldl (fun n c => match n, hexValue? c with
    | some n, some d => some (16 * n + d)
    | _, _ => none) (some 0)

/-- The code points of a string after one more escape, the last one first. A low surrogate right
after a high one makes one code point with it; any other stays as it is. -/
def addCode (n : Nat) : List Nat → List Nat
  | [] => [n]
  | last :: before =>
      if Text.isHighSurrogate last && Text.isLowSurrogate n then
        (0x10000 + (last - 0xD800) * 0x400 + (n - 0xDC00)) :: before
      else n :: last :: before

def simpleEscape? (c : Char) : Option Char :=
  if c = '"' || c = '\\' || c = '/' then some c
  else if c = 'b' then some (Char.ofNat 8)
  else if c = 'f' then some (Char.ofNat 12)
  else if c = 'n' then some '\n'
  else if c = 'r' then some '\r'
  else if c = 't' then some '\t'
  else none

/-- The code points of a string from one character on, after those before it, the last one first,
and what follows its closing quote. -/
def stringRest (before : List Nat) : List Char → Except Error (List Nat × List Char)
  | [] => .error .malformed
  | c :: cs =>
      if c = '"' then .ok (before.reverse, cs)
      else if c = '\\' then
        match cs with
        | [] => .error .malformed
        | e :: rest =>
            if e = 'u' then
              match rest with
              | h1 :: h2 :: h3 :: h4 :: rest =>
                  match hexCode? [h1, h2, h3, h4] with
                  | some n => stringRest (addCode n before) rest
                  | none => .error .malformed
              | _ => .error .malformed
            else match simpleEscape? e with
              | some d => stringRest (d.toNat :: before) rest
              | none => .error .malformed
      else if c.toNat < 0x20 then .error .malformed
      else stringRest (c.toNat :: before) cs

def digitRun (cs : List Char) : List Char :=
  cs.takeWhile Char.isDigit

def digitValues (cs : List Char) : List Nat :=
  cs.map fun c => c.toNat - 0x30

def fractionPart : List Char → List Char × List Char
  | '.' :: cs => match digitRun cs with
      | [] => ([], '.' :: cs)
      | ds => (ds, cs.drop ds.length)
  | cs => ([], cs)

def exponentPart (cs : List Char) : Option Int × List Char :=
  match cs with
  | [] => (none, [])
  | e :: rest =>
      if e = 'e' || e = 'E' then
        let (negative, body) := Numeral.takeSign rest
        match digitRun body with
        | [] => (none, cs)
        | ds =>
            let n : Int := Binary64.valueOf (digitValues ds)
            (some (if negative then -n else n), body.drop ds.length)
      else (none, cs)

def number (maxDigits : Nat) (negative : Bool) (cs : List Char) :
    Except Error (Value × List Char) :=
  let run := digitRun cs
  let whole := if run.head? = some '0' then ['0'] else run
  if whole.isEmpty then .error .malformed
  else
    let (fraction, afterFraction) := fractionPart (cs.drop whole.length)
    let (exponent, rest) := exponentPart afterFraction
    if fraction.isEmpty && exponent.isNone then
      if maxDigits < whole.length then .error .tooManyDigits
      else
        let n : Int := Binary64.valueOf (digitValues whole)
        .ok (.int (if negative then -n else n), rest)
    else
      .ok (.float (Binary64.ofDecimal negative (digitValues (whole ++ fraction))
        (exponent.getD 0 - fraction.length)), rest)

def literals : List (String × Value) :=
  [("null", .null), ("true", .bool true), ("false", .bool false), ("NaN", .float .nan),
    ("Infinity", .float (.infinite false)), ("-Infinity", .float (.infinite true))]

def literal? (cs : List Char) : List (String × Value) → Option (Value × List Char)
  | [] => none
  | (word, value) :: rest =>
      match word.toList.isPrefixOf? cs with
      | some after => some (value, after)
      | none => literal? cs rest

mutual

/-- A value at the head of a text, with room for so many values around those in it. The fuel is at
least twice the length of the text. -/
def value (maxDigits : Nat) : Nat → Nat → List Char → Except Error (Value × List Char)
  | 0, _, _ => .error .malformed
  | fuel + 1, room, cs =>
      match cs with
      | '"' :: rest => (stringRest [] rest).map fun (codes, rest) => (.ofCodes codes, rest)
      | '[' :: rest =>
          if room = 0 then .error .tooDeep
          else match skipSpace rest with
            | ']' :: rest => .ok (.list [], rest)
            | rest => items maxDigits fuel (room - 1) [] rest
      | '\x7b' :: rest =>
          if room = 0 then .error .tooDeep
          else match skipSpace rest with
            | '\x7d' :: rest => .ok (.object [], rest)
            | rest => fields maxDigits fuel (room - 1) [] rest
      | cs => match literal? cs literals with
          | some found => .ok found
          | none => match cs with
              | '-' :: rest => number maxDigits true rest
              | cs => number maxDigits false cs

def items (maxDigits : Nat) :
    Nat → Nat → List Value → List Char → Except Error (Value × List Char)
  | 0, _, _, _ => .error .malformed
  | fuel + 1, room, before, cs =>
      match value maxDigits fuel room cs with
      | .error e => .error e
      | .ok (v, rest) => match skipSpace rest with
          | ',' :: rest => items maxDigits fuel room (v :: before) (skipSpace rest)
          | ']' :: rest => .ok (.list (v :: before).reverse, rest)
          | _ => .error .malformed

/-- The fields of an object from one field on, after those read before it, the last one first. A
field that is repeated keeps its first position and its last value; a name that is torn is kept as
it is shown. -/
def fields (maxDigits : Nat) :
    Nat → Nat → List (String × Value) → List Char → Except Error (Value × List Char)
  | 0, _, _, _ => .error .malformed
  | fuel + 1, room, before, cs =>
      match cs with
      | '"' :: rest => match stringRest [] rest with
          | .error e => .error e
          | .ok (codes, rest) => match skipSpace rest with
              | ':' :: rest => match value maxDigits fuel room (skipSpace rest) with
                  | .error e => .error e
                  | .ok (v, rest) => match skipSpace rest with
                      | ',' :: rest => fields maxDigits fuel room
                          ((Text.ofCodes codes, v) :: before) (skipSpace rest)
                      | '\x7d' :: rest => .ok (.object (Dict.gather
                          ((Text.ofCodes codes, v) :: before).reverse), rest)
                      | _ => .error .malformed
              | _ => .error .malformed
      | _ => .error .malformed

end

def readWith (bounds : Bounds) (s : String) : Except Error Value :=
  let cs := skipSpace s.toList
  match value bounds.maxDigits (2 * cs.length + 2) bounds.maxDepth cs with
  | .error e => .error e
  | .ok (v, rest) => if (skipSpace rest).isEmpty then .ok v else .error .malformed

def maxDepth : Nat := 980

def readerBounds : Bounds :=
  ⟨Numeral.maxDigits, maxDepth⟩

def read (s : String) : Except Error Value :=
  readWith readerBounds s

end DiffReach.Json
