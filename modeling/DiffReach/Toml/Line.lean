import DiffReach.Fault
import DiffReach.Text.Character
import DiffReach.Text.Lines
import DiffReach.Text.Escape
import DiffReach.Text.Word

namespace DiffReach.Toml

open Text

inductive Failure where
  | malformed
  | fault (cause : Fault)

def beyondEnd {α : Type} : Except Failure α :=
  .error (.fault .beyondEnd)

def notTable {α : Type} : Except Failure α :=
  .error (.fault .notTable)

/-- How many places values inside values may take: a list takes two and a table in braces three. -/
def maxPlaces : Nat := 980

def placesInside (taken places : Nat) : Except Fault Nat :=
  if places < taken then .error .tooDeep else .ok (places - taken)

def malformed {α : Type} : Except Failure α :=
  .error .malformed

def isQuote (c : Char) : Bool :=
  c == '"' || c == singleQuote

def isOdd (n : Nat) : Bool :=
  n % 2 == 1

def runLength (c : Char) (cs : List Char) : Nat :=
  (cs.takeWhile (· == c)).length

def endsEscaped (cs : List Char) : Bool :=
  isOdd (runLength '\\' cs.reverse)

inductive KeyPlace where
  | outside
  | inside
  /-- After a name of the key: a point or the equals sign comes next. -/
  | after
  deriving DecidableEq

structure Scan where
  /-- The characters behind the scan, the nearest one first, as the lines will have them. -/
  before : List Char := []
  /-- How many arrays are open; closing more than were opened leaves this below zero. -/
  arrays : Int := 0
  quote : Option Char := none
  multiline : Bool := false
  inHeader : Bool := false
  inListHeader : Bool := false
  inComment : Bool := false
  lineStart : Bool := true
  dotted : Bool := false
  key : KeyPlace := .outside

namespace Scan

def push (s : Scan) (c : Char) : Scan :=
  { s with before := c :: s.before }

/-- How many characters in a row right before a place are the given one, the nearest ones left out.
Before the first character of a file stands its last one. -/
def runBefore (s : Scan) (c : Char) (nearest : Nat) (onward : List Char) : Nat :=
  let near := s.before.drop nearest
  let n := runLength c near
  if n < near.length then n
  else n + runLength c (onward.reverse.drop (nearest - s.before.length))

def toggle (s : Scan) (c : Char) (isTriple : Bool) : Scan :=
  if isTriple then
    { s with multiline := !s.multiline, quote := if s.multiline then none else some c }
  else { s with quote := if s.quote.isSome then none else some c }

/-- The scan after a quote, unless it stands in a string with the other quote. A double quote
behind a backslash is part of the text. -/
def readQuote (s : Scan) (c : Char) (onward : List Char) : Scan :=
  if c == singleQuote && s.quote != some '"' then
    s.toggle c (decide (2 ≤ s.runBefore c 0 onward))
  else if c == '"' && s.quote != some singleQuote then
    let run := s.runBefore c 0 onward
    let escaped :=
      if run == 0 then isOdd (s.runBefore '\\' 0 onward)
      else if 2 ≤ run then isOdd (s.runBefore '\\' 2 onward)
      else false
    if escaped then s else s.toggle c (decide (2 ≤ run))
  else s

def readBracket (s : Scan) (c : Char) (next : Option Char) : Scan :=
  if s.quote.isSome then s
  else if c == '[' && !s.inHeader && !s.inListHeader then
    if s.lineStart then
      if next == some '[' then { s with inListHeader := true } else { s with inHeader := true }
    else { s with arrays := s.arrays + 1 }
  else if c == ']' then
    if s.inHeader then { s with inHeader := false }
    else if s.inListHeader then { s with inListHeader := s.before.head? != some ']' }
    else { s with arrays := s.arrays - 1 }
  else s

/-- The scan after a line feed, which three quotes before it take away with themselves. -/
def endLine (s : Scan) : Except Failure Scan :=
  if s.quote.isSome || s.multiline then
    if !s.multiline then malformed
    else match s.before with
      | a :: b :: d :: rest =>
          if isQuote a && b == a then
            .ok { s with before := a :: a :: b :: (if d == a then ' ' else d) :: rest }
          else .ok (s.push '\n')
      | _ => .ok (s.push '\n')
  else if s.arrays != 0 then .ok (s.push ' ')
  else .ok { s.push '\n' with lineStart := true }

def readOutside (s : Scan) (c : Char) (cs : List Char) : Except Failure Scan :=
  let s := (s.readQuote c (c :: cs))
  if c == '#' && s.quote.isNone && !s.inHeader && !s.inListHeader then
    .ok { s.push ' ' with inComment := true }
  else
    let s := s.readBracket c cs.head?
    if c == '\n' then s.endLine
    else if s.lineStart && c != ' ' && c != '\t' then
      if s.inHeader || s.inListHeader then .ok { s.push c with lineStart := false }
      else if c == '=' then malformed
      else .ok { s.push c with lineStart := false, key := .inside }
    else .ok (s.push c)

def awaitName (s : Scan) (c : Char) (next : Option Char) : Except Failure Scan :=
  match next with
  | none => beyondEnd
  | some d =>
      .ok { s.push c with dotted := true, key := if isBlank d || d == '.' then .after else .inside }

def endKey (s : Scan) (c : Char) : Except Failure Scan :=
  if c == '=' then .ok { s.push c with key := .outside, dotted := false } else malformed

def readKey (s : Scan) (c : Char) (next : Option Char) : Except Failure Scan :=
  if c == '\n' then malformed
  else if s.quote.isSome then
    if s.quote == some c && !isOdd (runLength '\\' s.before) then
      .ok { s.push c with key := .after, quote := none }
    else .ok (s.push c)
  else if s.key == .inside then
    if isBlank c then .ok { s.push c with key := .after }
    else if c == '.' then .ok { s.push c with dotted := true }
    else if isWord c || c == '-' then .ok (s.push c)
    else if s.dotted && s.before.head? == some '.' && isQuote c then
      .ok { s.push c with quote := some c }
    else s.endKey c
  else if isBlank c then if s.dotted then s.awaitName c next else .ok (s.push c)
  else if c == '.' then s.awaitName c next
  else s.endKey c

def read (s : Scan) (c : Char) (cs : List Char) : Except Failure Scan :=
  if s.inComment then
    if c == '\n' then { s with inComment := false }.endLine else .ok (s.push ' ')
  else if s.key == .outside then s.readOutside c cs
  else s.readKey c cs.head?

def readAll (s : Scan) : List Char → Except Failure Scan
  | [] => .ok s
  | c :: cs => do
      let s ← s.read c cs
      s.readAll cs

end Scan

/-- The lines of a file, without comments and without the line feeds inside arrays. -/
def logicalLines (cs : List Char) : Except Failure (List (List Char)) := do
  let s ← ({} : Scan).readAll cs
  if s.key != .outside || s.quote.isSome then malformed
  else .ok (splitOn '\n' s.before.reverse)

end DiffReach.Toml
