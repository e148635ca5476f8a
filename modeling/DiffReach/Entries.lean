import DiffReach.Value

namespace DiffReach

namespace Entries

def isKey : Value → Bool
  | .list _ | .object _ => false
  | _ => true

def number? : Value → Option (Int × Nat)
  | .bool b => some (if b then 1 else 0, 1)
  | .int n => some (n, 1)
  | .float (.finite negative coefficient exponent) =>
      some (Binary64.quotient negative coefficient exponent)
  | _ => none

def isSame : Value → Value → Bool
  | .str s, .str t => s == t
  | .torn s, .torn t => s == t
  | .float (.infinite a), .float (.infinite b) => a == b
  | .null, .null => true
  | a, b => match number? a, number? b with
      | some (m, d), some (n, e) => m * e == n * d
      | _, _ => false

def put : List (Value × Value) → Value → Value → List (Value × Value)
  | [], key, v => [(key, v)]
  | (k, w) :: rest, key, v =>
      if isSame k key then (k, v) :: rest else (k, w) :: put rest key v

def pair : Value → Except Fault (Value × Value)
  | .list [k, v] => if isKey k then .ok (k, v) else .error .notEntries
  | .list _ => .error .notPairs
  | .str s => match s.toList with
      | [k, v] => .ok (.str k.toString, .str v.toString)
      | _ => .error .notPairs
  | .torn t => match t.codes with
      | [k, v] => .ok (.ofCodes [k], .ofCodes [v])
      | _ => .error .notPairs
  | .object [(k, _), (v, _)] => .ok (.str k, .str v)
  | .object _ => .error .notPairs
  | _ => .error .notEntries

def pairs (read : List (Value × Value)) : List Value → Except Fault (List (Value × Value))
  | [] => .ok read
  | item :: items => do
      let (k, v) ← pair item
      pairs (put read k v) items

end Entries

def Value.entries : Value → Except Fault (Dict Value)
  | .object fields => .ok fields
  | .list items => do
      let read ← Entries.pairs [] items
      pure (Dict.gather (read.map fun entry => (entry.1.text, entry.2)))
  | .str s => if s = "" then .ok [] else .error .notPairs
  | .torn _ => .error .notPairs
  | _ => .error .notEntries

end DiffReach
