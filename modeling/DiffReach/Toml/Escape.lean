import DiffReach.Toml.Line

namespace DiffReach.Toml

open Text

def escapeOf? (c : Char) : Option Char :=
  if c = '0' then some (Char.ofNat 0)
  else if c = 'b' then some (Char.ofNat 8)
  else if c = 'f' then some (Char.ofNat 12)
  else if c = 'n' then some '\n'
  else if c = 'r' then some '\r'
  else if c = 't' then some '\t'
  else if c = '"' then some c
  else none

def hexValue? (c : Char) : Option Nat :=
  if c.isDigit then some (c.toNat - 0x30)
  else if 'a' ≤ c.toLower ∧ c.toLower ≤ 'f' then some (c.toLower.toNat - 0x57)
  else none

def valueIn? (base : Nat) (cs : List Char) : Option Nat :=
  cs.foldl (fun n c =>
    match n, hexValue? c with
    | some n, some d => if d < base then some (base * n + d) else none
    | _, _ => none) (some 0)

def codeMarks : List (Char × Nat) :=
  [('u', 4), ('U', 8)]

/-- The character with a code, which must not begin like a surrogate. -/
def coded (digits : List Char) : Except Failure Char :=
  match valueIn? 16 digits with
  | none => malformed
  | some n =>
      match digits with
      | [] => beyondEnd
      | [d] => if d.toLower = 'd' then beyondEnd else .ok (Char.ofNat n)
      | d :: e :: _ =>
          if d.toLower = 'd' && !(e.isDigit && e.toNat < '8'.toNat) then malformed
          else if 0x7FFFFFFF < n then .error (.fault .outOfRange)
          else if 0x10FFFF < n then malformed
          else .ok (Char.ofNat n)

/-- Reads the parts between the marks of one escape for codes. A part whose mark was itself escaped
is kept, and after it the backslashes before the next mark count again. -/
def readCodes (mark : Char) (width : Nat) (skip : Bool) (read : List Char) :
    List (List Char) → Except Failure (List Char)
  | [] => .ok read
  | part :: parts =>
      if skip then
        readCodes mark width (endsEscaped part) (read ++ ['\\', mark] ++ part) parts
      else do
        let c ← coded (part.take width)
        readCodes mark width false (read ++ [c] ++ part.drop width) parts

def withCodes (cs : List Char) (entry : Char × Nat) : Except Failure (List Char) :=
  match splitText ['\\', entry.1] cs with
  | [] => .ok cs
  | [whole] => .ok whole
  | first :: parts => readCodes entry.1 entry.2 (endsEscaped first) first parts

def unescape : List Char → Except Failure (List Char)
  | [] => .ok []
  | ['\\'] => .ok ['\\']
  | '\\' :: c :: cs =>
      match escapeOf? c with
      | some d => (unescape cs).map (d :: ·)
      | none =>
          if c = '\\' then (unescape cs).map (c :: ·)
          else if c = 'u' || c = 'U' then (unescape cs).map fun rest => '\\' :: c :: rest
          else malformed
  | c :: cs => (unescape cs).map (c :: ·)

/-- Whether every backslash begins an escape that there is, by the parts of a text behind its
backslashes. -/
def escapesKnown (escaped : Bool) : List (List Char) → Bool
  | [] => true
  | [] :: parts => escapesKnown (!escaped) parts
  | (c :: _) :: parts =>
      (escaped || c == 'u' || c == 'U' || (escapeOf? c).isSome) && escapesKnown false parts

/-- How far a string is read, by the parts between its quotes: whether it was closed, and how many
quotes came in a row. -/
structure Closing where
  closed : Bool := false
  quotes : Nat := 0

/-- Nothing but quotes may follow a quote that closes the string. -/
def Closing.next? (triple : Bool) (s : Closing) (part : List Char) : Option Closing :=
  if part.isEmpty then
    some (if triple then { s with quotes := s.quotes + 1 } else { s with closed := true })
  else if endsEscaped part then some s
  else if s.closed then none
  else if !triple || 1 < s.quotes then some { s with closed := true }
  else some { s with quotes := 0 }

def closesOnce (parts : List (List Char)) : Bool :=
  let (triple, parts) := match parts with
    | [] :: [] :: rest => (true, rest)
    | _ => (false, parts)
  (parts.foldlM (Closing.next? triple) ({} : Closing)).isSome

def between (cs : List Char) : List Char :=
  (cs.drop 1).dropLast

def withoutQuotes (quote : Char) (cs : List Char) : List Char :=
  match cs with
  | [_, b] => if b = quote then [] else between cs
  | _ :: b :: c :: _ =>
      if b = quote && c = quote then between (between (between cs)) else between cs
  | _ => between cs

def stringValue (quote : Char) (cs : List Char) : Except Failure String :=
  if !closesOnce (splitOn quote (cs.drop 1)) then malformed
  else if quote = '"' then
    if !escapesKnown false ((splitOn '\\' cs).drop 1) then malformed
    else do
      let coded ← codeMarks.foldlM withCodes cs
      let plain ← unescape coded
      pure (String.ofList (withoutQuotes quote plain))
  else .ok (String.ofList (withoutQuotes quote cs))

end DiffReach.Toml
