import DiffReach.Value

namespace DiffReach.Json

def unitEscape (n : Nat) : List Char :=
  '\\' :: 'u' :: Text.hexDigits 4 n

/-- The escape of a character; one beyond the first plane is written as two surrogates. -/
def escapeChar (c : Char) : List Char :=
  if c = '"' || c = '\\' then ['\\', c]
  else if c = '\n' then ['\\', 'n']
  else if c = '\r' then ['\\', 'r']
  else if c = '\t' then ['\\', 't']
  else if c.toNat = 8 then ['\\', 'b']
  else if c.toNat = 12 then ['\\', 'f']
  else if 0x20 ≤ c.toNat ∧ c.toNat < 0x7F then [c]
  else if c.toNat < 0x10000 then unitEscape c.toNat
  else
    unitEscape (0xD800 + (c.toNat - 0x10000) / 0x400)
      ++ unitEscape (0xDC00 + (c.toNat - 0x10000) % 0x400)

def string (s : String) : String :=
  String.ofList ('"' :: (s.toList.flatMap escapeChar ++ ['"']))

def tornString (t : Text.Torn) : String :=
  String.ofList ('"' :: (t.codes.flatMap (fun n =>
    if Text.isSurrogate n then unitEscape n else escapeChar (Char.ofNat n)) ++ ['"']))

def float : Binary64 → String
  | .nan => "NaN"
  | .infinite true => "-Infinity"
  | .infinite false => "Infinity"
  | x => x.text

inductive Spacing where
  | line
  | indented (depth : Nat)

namespace Spacing

def deeper : Spacing → Spacing
  | .line => .line
  | .indented depth => .indented (depth + 1)

def margin (depth : Nat) : String :=
  "\n" ++ String.ofList (List.replicate (2 * depth) ' ')

def enclose (spacing : Spacing) (left right : String) : List String → String
  | [] => left ++ right
  | items => match spacing with
      | .line => left ++ String.intercalate ", " items ++ right
      | .indented depth =>
          left ++ margin (depth + 1) ++ String.intercalate ("," ++ margin (depth + 1)) items
            ++ margin depth ++ right

end Spacing

mutual

def render (spacing : Spacing) : Value → String
  | .null => "null"
  | .bool true => "true"
  | .bool false => "false"
  | .int n => toString n
  | .float x => float x
  | .str s => string s
  | .torn t => tornString t
  | .moment m => string m.text
  | .list items => spacing.enclose "[" "]" (renderItems spacing.deeper items)
  | .object fields => spacing.enclose "\x7b" "\x7d" (renderFields spacing.deeper fields)

def renderItems (spacing : Spacing) : List Value → List String
  | [] => []
  | item :: items => render spacing item :: renderItems spacing items

def renderFields (spacing : Spacing) : List (String × Value) → List String
  | [] => []
  | (name, v) :: fields => (string name ++ ": " ++ render spacing v) :: renderFields spacing fields

end

end DiffReach.Json
