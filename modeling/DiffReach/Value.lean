import DiffReach.Dict
import DiffReach.Fault
import DiffReach.Moment
import DiffReach.Number.Layout
import DiffReach.Number.Numeral
import DiffReach.Text.Escape

namespace DiffReach

inductive Value where
  | null
  | bool (b : Bool)
  | int (n : Int)
  | float (x : Binary64)
  | str (s : String)
  | torn (t : Text.Torn)
  | moment (m : Moment)
  | list (items : List Value)
  | object (fields : List (String × Value))

namespace Value

def ofCodes (codes : List Nat) : Value :=
  if h : codes.any Text.isSurrogate = true then .torn ⟨codes, h⟩ else .str (Text.ofCodes codes)

/-- Nothing, false, zero and whatever is empty do not count; all else does. -/
def truthy : Value → Bool
  | .null => false
  | .bool b => b
  | .int n => n != 0
  | .float x => !x.isZero
  | .str s => s != ""
  | .torn _ => true
  | .moment _ => true
  | .list items => !items.isEmpty
  | .object fields => !fields.isEmpty

def orElse (a b : Value) : Value :=
  if a.truthy then a else b

def field (name : String) : Value → Except Fault Value
  | .object fields => .ok ((Dict.fetch fields name).getD .null)
  | _ => .error .notObject

mutual

def inner : Value → String
  | .null => "None"
  | .bool true => "True"
  | .bool false => "False"
  | .int n => toString n
  | .float x => x.text
  | .str s => Text.quote s
  | .torn t => String.ofList t.quoted
  | .moment m => m.quoted
  | .list items => "[" ++ String.intercalate ", " (innerItems items) ++ "]"
  | .object fields => "\x7b" ++ String.intercalate ", " (innerFields fields) ++ "\x7d"

def innerItems : List Value → List String
  | [] => []
  | item :: items => inner item :: innerItems items

def innerFields : List (String × Value) → List String
  | [] => []
  | (name, value) :: fields => (Text.quote name ++ ": " ++ inner value) :: innerFields fields

end

def text : Value → String
  | .str s => s
  | .torn t => t.shown
  | .moment m => m.text
  | v => inner v

def textOrEmpty (v : Value) : String :=
  if v.truthy then v.text else ""

def toInt : Value → Except Fault Int
  | .bool b => .ok (if b then 1 else 0)
  | .int n => .ok n
  | .float .nan => .error .notANumber
  | .float (.infinite _) => .error .unbounded
  | .float (.finite negative coefficient exponent) =>
      .ok (Binary64.truncate negative coefficient exponent)
  | .str s => Numeral.integer s
  | .torn _ => .error .notNumeral
  | _ => .error .notNumeric

def ofIntAsFloat (n : Int) : Except Fault Binary64 :=
  match Binary64.ofInt? n with
  | some x => .ok x
  | none => .error .outOfRange

def toBinary64 : Value → Except Fault Binary64
  | .bool b => ofIntAsFloat (if b then 1 else 0)
  | .int n => ofIntAsFloat n
  | .float x => .ok x
  | .str s => match Numeral.real? s with
      | some x => .ok x
      | none => .error .notNumeral
  | .torn _ => .error .notNumeral
  | _ => .error .notNumeric

end Value

end DiffReach
