import DiffReach.Text.Character
import DiffReach.Toml.Number

namespace DiffReach.Toml

open Text

/-- Takes up what follows a text with an odd number of stretches between single quotes. -/
def mergeSingles (singles : List (List Char)) :
    List (List Char) → List (List Char) × List (List Char)
  | [] => (singles, [])
  | part :: rest =>
      if singles.length % 2 == 0 then
        let last := singles.getLast?.getD [] ++ '"' :: part
        mergeSingles (singles.dropLast ++ splitOn singleQuote last) rest
      else (singles, part :: rest)

def quoteParts (cs : List Char) : List (List Char) :=
  let rest := fun (parts : List (List Char)) => match parts with
    | [] => []
    | part :: parts => splitOn singleQuote part ++ parts
  match splitOn '"' cs with
  | first :: next :: parts =>
      if first.elem singleQuote then
        let (singles, left) := mergeSingles (splitOn singleQuote first) (next :: parts)
        singles ++ rest left
      else rest (first :: next :: parts)
  | parts => rest parts

def separatorIndex (sep : List Char) (isQuoted : Bool) : List (List Char) → Nat
  | [] => 1
  | part :: parts =>
      if !isQuoted && occursIn sep part then 1
      else countText sep part + separatorIndex sep (!isQuoted) parts

structure Division where
  before : List Char
  after : List Char
  deriving DecidableEq

/-- A line divided at the equals sign with a number, or at the last one. -/
def divide (index : Nat) (line : List Char) : Division :=
  let parts := splitAtMost index ['='] line
  ⟨List.intercalate ['='] parts.dropLast, parts.getLast?.getD []⟩

/-- Whether a text right behind an equals sign can be a value; behind a blank anything can. -/
def canFollow (v : List Char) : Bool :=
  match v with
  | [] => true
  | c :: _ =>
      c == ' ' || c == '\t' || isQuote c || c == '[' || c == '\x7b'
        || trim v == "true".toList || trim v == "false".toList
        || (Numeral.real? (String.ofList v)).isSome || (day? v).isSome
        || (clockNumbers? v).isSome

/-- Moves a division on from one equals sign to the next until a value follows, for as many signs
as the fuel. Every text that is passed over has to keep to the rules for numbers. -/
def settle (line : List Char) : Nat → Nat → Division → Bool → Except Failure (Division × Bool)
  | 0, _, _, _ => malformed
  | fuel + 1, index, d, strict =>
      if canFollow d.after then .ok (d, strict)
      else
        let next := divide (index + 1) line
        if next.after == d.after then malformed
        else settle line fuel (index + 1) next (strict && isStrict next.after)

def keyAndValue (line : List Char) : Except Failure (List Char × List Char × Bool) := do
  let index := separatorIndex ['='] false (quoteParts line)
  let first := divide index line
  let plain := if (first.after.head?.map Char.isDigit).getD false
    then first.after.filter (· != '_') else first.after
  let (d, strict) ← settle line (line.length + 2) index { first with after := plain }
    (isStrict first.after)
  pure (trim d.before, trim d.after, strict)

structure KeyPath where
  tables : List String
  name : String

def keyParts (isQuoted : Bool) : List (List Char) → List (List Char)
  | [] => []
  | part :: parts =>
      (if isQuoted then [part] else splitOn '.' part) ++ keyParts (!isQuoted) parts

def keyPath (key : List Char) : Except Failure KeyPath :=
  if key.elem '.' then
    match (keyParts false (quoteParts key)).reverse.dropWhile List.isEmpty with
    | [] => beyondEnd
    | last :: tables =>
        .ok ⟨(tables.reverse.filter fun part => !part.isEmpty).map String.ofList,
          String.ofList (trim last)⟩
  else match key with
    | [] => beyondEnd
    | c :: _ =>
        if isQuote c && key.getLast? == some c then
          (unescape (between key)).map fun name => ⟨[], String.ofList name⟩
        else .ok ⟨[], String.ofList key⟩

def holdsStrings (cs : List Char) : Bool :=
  ((trim (between cs)).head?.map isQuote).getD false

/-- The last string in an array, from the parts between its commas, the last ones first. -/
def lastString : List (List Char) → Except Failure (List Char)
  | [] => .ok []
  | [part] => .ok part
  | part :: previous :: rest =>
      match part with
      | [] => beyondEnd
      | c :: _ =>
          if isQuote c then .ok part else lastString ((previous ++ ',' :: part) :: rest)
  termination_by parts => parts.length

def isOpenTriple (cs : List Char) : Except Failure Bool :=
  match cs with
  | [] => .ok false
  | a :: rest =>
      if !isQuote a then .ok false
      else match rest with
        | [] => beyondEnd
        | b :: rest =>
            if b != a then .ok false
            else match rest with
              | [] => beyondEnd
              | c :: _ => .ok (c == a && !(5 < cs.length && 3 ≤ runLength a cs.reverse))

/-- Whether a value goes on in the next line: it is a string in three quotes that is not closed, or
an array that ends in one. -/
def goesOn (v : List Char) : Except Failure Bool :=
  if v.length < 3 then .ok false
  else if v.head? == some '[' && v.getLast? != some ']' && holdsStrings v then do
    let last ← lastString (splitOn ',' (trim (v.drop 1))).reverse
    isOpenTriple last
  else isOpenTriple v

structure Pending where
  key : String
  text : List Char
  /-- Whether the last line read ended in a backslash, which joins it with the next one. -/
  joined : Bool

def Pending.ofText (key : String) (text : List Char) : Pending :=
  if endsEscaped text then ⟨key, text.dropLast, true⟩ else ⟨key, text ++ ['\n'], false⟩

def isUnfinished (cs : List Char) : Bool :=
  let isBounded := match cs with
    | [] => true
    | [_] => true
    | first :: rest =>
        rest.getLast? == some first && !isOdd (runLength '\\' rest.dropLast.reverse)
  let opensTriple := match cs, cs.reverse with
    | a :: b :: c :: _, _ :: y :: z :: _ => a == b && b == c && y != a && z != a
    | _, _ => false
  !isBounded || opensTriple

def joinStrings (current : List Char) : List (List Char) → Except Failure (List (List Char))
  | [] => .ok [current]
  | next :: rest =>
      if isUnfinished (trim current) then
        let joined := current ++ ',' :: next
        if rest.isEmpty && isUnfinished (trim joined) then beyondEnd else joinStrings joined rest
      else (joinStrings next rest).map (current :: ·)

def splitOutside (depth : Int) (current : List Char) : List Char → List (List Char)
  | [] => [current.reverse]
  | c :: cs =>
      if c = '[' then splitOutside (depth + 1) (c :: current) cs
      else if c = ']' then splitOutside (depth - 1) (c :: current) cs
      else if c = ',' && depth = 0 then current.reverse :: splitOutside depth [] cs
      else splitOutside depth (c :: current) cs

/-- A scan for the tables in an array: the table that is open, if one is, the braces that are open,
whether a string is open, and whether the next character only divides two tables. -/
structure BraceScan where
  current : Option (List Char)
  depth : Nat
  inString : Bool
  skip : Bool

def braceGroups (s : BraceScan) : List Char → List (List Char)
  | [] => []
  | c :: cs =>
      match s.current with
      | none =>
          if s.skip then braceGroups { s with skip := false } cs
          else if c = '\x7b' then braceGroups { s with current := some [c] } cs
          else braceGroups s cs
      | some current =>
          let inString := if isQuote c then
              if s.inString then isOdd (runLength '\\' current) else true
            else s.inString
          let depth := if !inString && c = '\x7b' then s.depth + 1 else s.depth
          let group := c :: current
          if inString || c ≠ '\x7d' then braceGroups ⟨some group, depth, inString, false⟩ cs
          else if 1 < depth then braceGroups ⟨some group, depth - 1, inString, false⟩ cs
          else group.reverse :: braceGroups ⟨none, depth, inString, true⟩ cs

def arrayParts (cs : List Char) : Except Failure (List (List Char)) :=
  let cs := trim cs
  let inner := between cs
  let isNested := inner.elem '[' && (trim (inner.takeWhile (· != '['))).isEmpty
  if isNested then .ok (splitOutside 0 [] inner)
  else if (trim inner).head? == some '\x7b' then
    match inner with
    | [] => .ok []
    | c :: rest => .ok (braceGroups ⟨some [c], if c = '\x7b' then 1 else 0, false, false⟩ rest)
  else match splitOn ',' inner with
    | [] => .ok []
    | first :: rest =>
        if holdsStrings cs then joinStrings first rest else .ok (first :: rest)

def isInlineValue (v : List Char) : Bool :=
  let encloses := fun (a b : Char) => v.head? == some a && v.getLast? == some b
  encloses '"' '"' || encloses singleQuote singleQuote
    || (v.head?.map fun c => c == '-' || c.isDigit).getD false
    || v == "true".toList || v == "false".toList || encloses '[' ']' || encloses '\x7b' '\x7d'

def inlineParts (current : List Char) (rest : List (List Char)) :
    Except Failure (List (List Char)) :=
  match current.dropWhile (· != '=') with
  | [] => malformed
  | _ :: after =>
      let v := trim after
      if v.isEmpty then beyondEnd
      else match rest with
        | [] => if isInlineValue v then .ok [current] else malformed
        | next :: rest =>
            if isInlineValue v then (inlineParts next rest).map (current :: ·)
            else inlineParts (current ++ ',' :: next) rest

def inlineEntries (line : List Char) : Except Failure (List (List Char)) :=
  match splitOn ',' (between line) with
  | [] => .ok []
  | [part] => if (trim part).isEmpty then .ok [] else inlineParts part []
  | first :: rest => inlineParts first rest

def kind : Value → Nat
  | .null => 0
  | .bool _ => 1
  | .int _ => 2
  | .float _ => 3
  | .str _ | .torn _ => 4
  | .list _ => 5
  | .object _ => 6
  | .moment (.clock _) => 7
  | .moment _ => 8

/-- Changes the table at a path below a value; tables that are missing on the way are made. -/
def changeAt (change : Value → Except Failure (Value × Option Pending)) :
    List String → Value → Except Failure (Value × Option Pending)
  | [], v => change v
  | name :: rest, .object fields => do
      let (inner, pending) ← changeAt change rest ((Dict.fetch fields name).getD (.object []))
      pure (.object (Dict.put fields name inner), pending)
  | _ :: _, _ => notTable

/-- Writes a value under a key that is new to a table. A value that goes on in the next line is
only announced. -/
def assign (name : String) (v : Value ⊕ Pending) : Value → Except Failure (Value × Option Pending)
  | .object fields =>
      if Dict.holds fields name then malformed
      else match v with
        | .inl value => .ok (.object (Dict.put fields name value), none)
        | .inr pending =>
            if name = "" then .error (.fault .unread) else .ok (.object fields, some pending)
  | _ => malformed

mutual

/-- A value from its text, with as many steps as the fuel and places for the values inside it. -/
def readValue : Nat → Nat → Bool → List Char → Except Failure Value
  | 0, _, _, _ => malformed
  | fuel + 1, places, strict, v =>
      match v with
      | [] => malformed
      | c :: _ =>
          if v = "true".toList then .ok (.bool true)
          else if v = "false".toList then .ok (.bool false)
          else if isQuote c then (stringValue c v).map .str
          else if c = '[' then do
            let inside ← (placesInside 2 places).mapError .fault
            let parts ← arrayParts v
            let items ← readItems fuel inside none (parts.map trim)
            pure (.list items)
          else if c = '\x7b' then do
            let inside ← (placesInside 3 places).mapError .fault
            let entries ← inlineEntries v
            readEntries fuel inside entries (.object [])
          else match clockNumbers? v with
            | some (hour, minute, second, micro) =>
                match Moment.clock? hour minute second micro with
                | some t => .ok (.moment (.clock t))
                | none => malformed
            | none =>
                match day? v with
                | some m => .ok (.moment m)
                | none =>
                    if strict then
                      match number? v with
                      | some n => .ok n
                      | none => malformed
                    else malformed

def readItems : Nat → Nat → Option Nat → List (List Char) → Except Failure (List Value)
  | 0, _, _, _ => malformed
  | _, _, _, [] => .ok []
  | fuel + 1, places, expected, part :: parts =>
      if part.isEmpty then readItems fuel places expected parts
      else do
        let v ← readValue fuel places true part
        if expected.isSome && expected != some (kind v) then malformed
        else
          let items ← readItems fuel places (some (kind v)) parts
          pure (v :: items)

/-- A table after the entries in braces, up to one that goes on in another line. -/
def readEntries : Nat → Nat → List (List Char) → Value → Except Failure Value
  | 0, _, _, _ => malformed
  | _, _, [], table => .ok table
  | fuel + 1, places, line :: lines, table => do
      let (table, pending) ← readEntry fuel places line table
      if pending.isSome then pure table else readEntries fuel places lines table

def readEntry : Nat → Nat → List Char → Value → Except Failure (Value × Option Pending)
  | 0, _, _, _ => malformed
  | fuel + 1, places, line, table => do
      let (key, v, strict) ← keyAndValue line
      let path ← keyPath key
      let change := fun inner => do
        let continues ← goesOn v
        if continues then assign path.name (.inr (.ofText path.name v)) inner
        else
          let value ← readValue fuel places strict v
          assign path.name (.inl value) inner
      changeAt change path.tables table

end

/-- More steps than the reading of any value inside a text takes. -/
def fuelFor (cs : List Char) : Nat :=
  4 * cs.length + 8

def value (cs : List Char) : Except Failure Value :=
  readValue (fuelFor cs) maxPlaces true cs

def entry (line : List Char) (table : Value) : Except Failure (Value × Option Pending) :=
  readEntry (fuelFor line) maxPlaces line table

def entries (line : List Char) (table : Value) : Except Failure Value := do
  let lines ← inlineEntries line
  readEntries (fuelFor line) maxPlaces lines table

end DiffReach.Toml
