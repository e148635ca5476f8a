import DiffReach.Toml.Header

namespace DiffReach.Toml

open Text

/-- What is read so far: the document, the way to the open table, the tables that were only made on
the way to others, and the value of several lines that is open. -/
structure Reading where
  document : Value := .object []
  steps : List Step := []
  implied : List String := []
  pending : Option Pending := none

def changeWithin {α : Type} (change : Value → Except Failure (Value × α)) :
    List Step → Value → Except Failure (Value × α)
  | [], v => change v
  | .name name :: rest, .object fields => do
      let (inner, result) ← changeWithin change rest ((Dict.fetch fields name).getD .null)
      pure (.object (Dict.put fields name inner), result)
  | .last :: rest, .list items => do
      let (inner, result) ← changeWithin change rest (items.getLast?.getD .null)
      pure (.list (items.dropLast ++ [inner]), result)
  | _, _ => notTable

namespace Reading

def openHeader (r : Reading) (line : List Char) : Except Failure Reading := do
  let header ← header line
  let o ← openTable header.isList r.implied header.names r.document
  pure { r with document := o.value, steps := o.steps, implied := o.implied }

def readLine (r : Reading) (line : List Char) : Except Failure Reading :=
  match line with
  | [] => .ok r
  | c :: _ =>
      if c = '[' then r.openHeader line
      else if c = '\x7b' then
        if line.getLast? != some '\x7d' then malformed
        else do
          let change := fun table => (entries line table).map fun table => (table, ())
          let (document, _) ← changeWithin change r.steps r.document
          pure { r with document }
      else if line.elem '=' then do
        let (document, pending) ← changeWithin (entry line) r.steps r.document
        pure { r with document, pending }
      else .ok r

/-- Whether a line ends the value that is open: an array by its bracket, a string by the three
quotes that it began with. -/
def closes (text line : List Char) : Except Failure Bool :=
  match text.head? with
  | some '[' => match line.getLast? with
      | none => beyondEnd
      | some c => .ok (c == ']')
  | some quote => .ok (decide (3 ≤ runLength quote line.reverse))
  | none => .ok false

def continueValue (r : Reading) (p : Pending) (line : List Char) : Except Failure Reading := do
  let text := p.text ++ line
  let isClosed ← closes text line
  if isClosed then
    let v ← value text
    let change := fun table => match table with
      | .object fields => .ok (.object (Dict.put fields p.key v), ())
      | _ => notTable
    let (document, _) ← changeWithin change r.steps r.document
    pure { r with document, pending := none }
  else pure { r with pending := some (.ofText p.key text) }

/-- The reading after a line. The lines of an open value keep their blanks, unless a backslash joins
them. -/
def line (r : Reading) (cs : List Char) : Except Failure Reading :=
  match r.pending with
  | none => r.readLine (trim cs)
  | some p =>
      let cs := if p.text.elem '\n' && !p.joined then cs else trim cs
      if cs.isEmpty && p.joined then .ok r else r.continueValue p cs

end Reading

def read (s : String) : Except Failure (Dict Value) := do
  let lines ← logicalLines s.toList
  let r ← lines.foldlM Reading.line {}
  match r.document with
  | .object fields => pure fields
  | _ => notTable

end DiffReach.Toml
