import DiffReach.Text.Lines
import DiffReach.Toml.Line
import DiffReach.Value

namespace DiffReach.Toml

open Text

/-- What a text in quotes has between them, but with the double quotes escaped and the single ones
not. -/
def escapedText (cs : List Char) : List Char :=
  let inner := (cs.drop 1).dropLast
  if cs.head? == some '"' then inner
  else replaceText ['"'] ['\\', '"'] (replaceText ['\\', singleQuote] [singleQuote] inner)

/-- Whether the mark of a short code is written as it stands behind a text, and not as the mark of
a longer code. The backslashes at the end of the text decide; they do not count at its head. -/
def keepsMark (cs : List Char) : Bool :=
  let run := (cs.reverse.takeWhile (· == '\\')).length
  let turns := if run = cs.length then run - 1 else run
  (cs.getLast? != some '\\') == (turns % 2 == 0)

/-- Joins the parts of a text around the marks of its short codes. Before every join the doubled
backslashes of what is joined so far become single ones. A mark at the head of the text is passed
over, and nothing can follow it but another mark. -/
def joinCodes (current : List Char) : List (List Char) → Except Fault (List Char)
  | [] => .ok current
  | next :: rest =>
      if current.isEmpty then
        match rest with
        | [] => .error .beyondEnd
        | after :: rest =>
            if next.isEmpty then .error .beyondEnd
            else
              let head := replaceText ['\\', '\\'] ['\\'] next
              joinCodes (head ++ (if keepsMark head then ['x'] else "u00".toList) ++ after) rest
      else
        let head := replaceText ['\\', '\\'] ['\\'] current
        joinCodes (head ++ (if keepsMark head then ['x'] else "u00".toList) ++ next) rest

def ofQuoted (cs : List Char) : Except Fault String :=
  match splitText ['\\', 'x'] (escapedText cs) with
  | [] => .ok "\"\""
  | first :: parts =>
      (joinCodes first parts).map fun cs => String.ofList ('"' :: (cs ++ ['"']))

def string (s : String) : Except Fault String :=
  ofQuoted (quoted s.toList)

/-- A key is written bare if it has only letters, digits, underscores and hyphens; a line feed at
its end does not count. -/
def isBare (cs : List Char) : Bool :=
  let cs := if cs.getLast? == some '\n' then cs.dropLast else cs
  !cs.isEmpty && cs.all fun c => c.isAlphanum || c == '_' || c == '-'

def key (s : String) : Except Fault String :=
  if isBare s.toList then .ok s else string s

def shortenExponent : List Char → List Char
  | 'e' :: sign :: '0' :: rest =>
      if sign = '+' || sign = '-' then 'e' :: sign :: rest else 'e' :: sign :: '0' :: rest
  | c :: rest => c :: shortenExponent rest
  | [] => []

def float (x : Binary64) : String :=
  String.ofList (shortenExponent x.chars)

mutual

/-- A value on one line, with places for the values inside it. A table among the items of a list
stands for its keys. -/
def printedWithin (places : Nat) : Value → Except Fault String
  | .null => .ok "\"None\""
  | .bool true => .ok "true"
  | .bool false => .ok "false"
  | .int n => .ok (toString n)
  | .float x => .ok (float x)
  | .str s => string s
  | .torn t => ofQuoted t.quoted
  | .moment m => .ok m.written
  | .list items => do
      let inside ← placesInside 2 places
      let s ← printedItems inside items
      pure ("[" ++ s ++ "]")
  | .object fields => (printedNames fields).map fun s => "[" ++ s ++ "]"

def printedItems (places : Nat) : List Value → Except Fault String
  | [] => .ok ""
  | item :: items => do
      let first ← printedWithin places item
      let rest ← printedItems places items
      pure (" " ++ first ++ "," ++ rest)

def printedNames : List (String × Value) → Except Fault String
  | [] => .ok ""
  | (name, _) :: fields => do
      let first ← string name
      let rest ← printedNames fields
      pure (" " ++ first ++ "," ++ rest)

end

def printed (v : Value) : Except Fault String :=
  printedWithin maxPlaces v

/-- A table as it is written: the lines of its plain keys and of its lists of tables, and the tables
in it, under their keys. -/
structure Section where
  lines : String
  tables : Dict (Dict Value)

mutual

def height : Value → Nat
  | .object fields => heightFields fields + 1
  | .list items => heightItems items + 1
  | _ => 0

def heightFields : List (String × Value) → Nat
  | [] => 0
  | (_, v) :: fields => max (height v) (heightFields fields)

def heightItems : List Value → Nat
  | [] => 0
  | v :: items => max (height v) (heightItems items)

end

def isTable : Value → Bool
  | .object _ => true
  | _ => false

/-- The names of a value that should be a table and is none: an empty text or list has none, and any
other value has no table behind its names. -/
def noSection : Value → Except Fault Section
  | .str s => match s.toList with
      | [] => .ok ⟨"", []⟩
      | c :: _ => do
          let _ ← key c.toString
          .error .notTable
  | .list [] => .ok ⟨"", []⟩
  | .list (item :: _) => do
      let _ ← key item.text
      .error .notTable
  | _ => .error .notTable

def subtables (name : String) (s : Section) : Dict (Dict Value) :=
  s.tables.map fun entry => (name ++ "." ++ entry.1, entry.2)

def deeper (print : String → Dict Value → Except Fault Section) (path : String) :
    Nat → String → Dict (Dict Value) → Except Fault String
  | 0, written, _ => .ok written
  | fuel + 1, written, tables =>
      if tables.isEmpty then .ok written
      else do
        let (written, next) ← tables.foldlM (fun (written, next) (name, table) => do
          let whole := path ++ "." ++ name
          let inner ← print whole table
          let lines := if inner.lines = "" then "" else "[" ++ whole ++ "]\n" ++ inner.lines
          pure (written ++ lines, Dict.putAll next (subtables name inner)))
          (written, ([] : Dict (Dict Value)))
        deeper print path fuel written next

def listed (print : String → Dict Value → Except Fault Section) (fuel : Nat) (path : String)
    (item : Value) : Except Fault String := do
  let inner ← match item with
    | .object fields => print path fields
    | v => noSection v
  let (own, behind) := if inner.lines.startsWith "[" then ("", "\n" ++ inner.lines)
    else (inner.lines, "\n")
  let tables ← deeper print path fuel behind inner.tables
  pure ("[[" ++ path ++ "]]\n" ++ own ++ tables)

def sectionAt : Nat → String → Dict Value → Except Fault Section
  | 0, _, _ => .ok ⟨"", []⟩
  | fuel + 1, path, table => do
      let (lines, lists, tables) ← table.foldlM (fun (lines, lists, tables) (name, v) => do
        let key ← key name
        let whole := if path = "" then key else path ++ "." ++ key
        match v with
        | .null => pure (lines, lists, tables)
        | .object inner => pure (lines, lists, Dict.put tables key inner)
        | .list items =>
            if items.any isTable then
              let parts ← items.mapM (listed (sectionAt fuel) (heightItems items) whole)
              pure (lines, lists ++ String.join parts, tables)
            else
              let s ← printed (.list items)
              pure (lines ++ key ++ " = " ++ s ++ "\n", lists, tables)
        | v =>
            let s ← printed v
            pure (lines ++ key ++ " = " ++ s ++ "\n", lists, tables))
        ("", "", ([] : Dict (Dict Value)))
      pure ⟨lines ++ lists, tables⟩

def sectionOf (path : String) (table : Dict Value) : Except Fault Section :=
  sectionAt (heightFields table + 1) path table

def addSection (written name : String) (s : Section) : String :=
  if s.lines = "" && !s.tables.isEmpty then written
  else
    let gap := if written = "" || written.endsWith "\n\n" then "" else "\n"
    written ++ gap ++ "[" ++ name ++ "]\n" ++ s.lines

def addSections : Nat → String → Dict (Dict Value) → Except Fault String
  | 0, written, _ => .ok written
  | fuel + 1, written, tables =>
      if tables.isEmpty then .ok written
      else do
        let (written, next) ← tables.foldlM (fun (written, next) (name, table) => do
          let s ← sectionOf name table
          pure (addSection written name s, Dict.putAll next (subtables name s)))
          (written, ([] : Dict (Dict Value)))
        addSections fuel written next

/-- The plain keys of a table come first, then its lists of tables, then the tables in it. -/
def render (table : Dict Value) : Except Fault String := do
  let top ← sectionOf "" table
  addSections (heightFields table) top.lines top.tables

end DiffReach.Toml
