import DiffReach.Toml.Entry

namespace DiffReach.Toml

open Text

structure Header where
  names : List String
  isList : Bool

def isPlainKeyChar (c : Char) : Bool :=
  c.isAlphanum || c == '_' || c == '-'

def headerNames (current : Option (List Char)) : List (List Char) → Except Failure (List String)
  | [] => if current.isSome then malformed else .ok []
  | part :: parts =>
      let raw := match current with
        | none => trim part
        | some open_ => open_ ++ '.' :: part
      if (raw.head?.map isQuote).getD false then
        let name := trim raw
        if 1 < name.length && name.head? == name.getLast? then
          (headerNames none parts).map (String.ofList (between name) :: ·)
        else headerNames (some raw) parts
      else if !raw.isEmpty && raw.all isPlainKeyChar then
        (headerNames none parts).map (String.ofList raw :: ·)
      else malformed

def header (line : List Char) : Except Failure Header := do
  let isList := line.drop 1 |>.head? |> (· == some '[')
  let body := line.drop (if isList then 2 else 1)
  let close := if isList then [']', ']'] else [']']
  if line.length = 1 then malformed
  else
    let index := separatorIndex close false (quoteParts body)
    let parts := splitAtMost index close body
    if parts.length < index + 1 || !(trim (parts.getLast?.getD [])).isEmpty then malformed
    else
      let names ← headerNames none (splitOn '.' (List.intercalate close parts.dropLast))
      pure ⟨names, isList⟩

inductive Step where
  | name (s : String)
  | last

/-- Where a header leads: the changed value, the steps to the table, and the names of the tables
that were only made on the way to others. -/
structure Opened where
  value : Value
  steps : List Step
  implied : List String

namespace Opened

def under (fields : Dict Value) (name : String) (o : Opened) : Opened :=
  { o with value := .object (fields.put name o.value), steps := .name name :: o.steps }

def atLast (items : List Value) (o : Opened) : Opened :=
  { o with value := .list (items.dropLast ++ [o.value]), steps := .last :: o.steps }

end Opened

def fresh (isList isFinal : Bool) : Value :=
  if isList && isFinal then .list [.object []] else .object []

/-- The value of a key that a header ends at though it is there: a table that was only made on the
way to another, or a list to which a table is added. -/
def reopen (isList : Bool) (implied : List String) (name : String) (v : Value) :
    Except Failure (Value × List String) :=
  if implied.elem name then
    if isList then malformed else .ok (v, implied.erase name)
  else if !isList then malformed
  else match v with
    | .list items => .ok (.list (items ++ [.object []]), implied)
    | _ => notTable

def enter (isList : Bool) (go : Value → Except Failure Opened) (v : Value) :
    Except Failure Opened :=
  if !isList then go v
  else match v with
    | .object _ => go v
    | .list items =>
        match items.getLast? with
        | none => beyondEnd
        | some last => (go last).map (Opened.atLast items)
    | .str s => if s = "" then beyondEnd else notTable
    | _ => notTable

/-- The value after a header is opened in it. A list on the way stands for its last item. -/
def openTable (isList : Bool) (implied : List String) : List String → Value →
    Except Failure Opened
  | [], v => .ok ⟨v, [], implied⟩
  | name :: rest, v =>
      if name = "" then malformed
      else match v with
        | .object fields =>
            match Dict.fetch fields name with
            | some inner => do
                let (inner, implied) ←
                  if rest.isEmpty then reopen isList implied name inner else pure (inner, implied)
                let o ← enter isList (openTable isList implied rest) inner
                pure (o.under fields name)
            | none => do
                let implied := if rest.isEmpty then implied else implied ++ [name]
                let o ← enter isList (openTable isList implied rest) (fresh isList rest.isEmpty)
                pure (o.under fields name)
        | .list items =>
            match items.getLast? with
            | none => beyondEnd
            | some (.object fields) => do
                let inner := (Dict.fetch fields name).getD (fresh isList rest.isEmpty)
                let o ← enter isList (openTable isList implied rest) inner
                pure ((o.under fields name).atLast items)
            | some _ => notTable
        | .str s => if s = "" then beyondEnd else notTable
        | _ => notTable

end DiffReach.Toml
