import DiffReach.Display.Emoji
import DiffReach.Display.Literal
import DiffReach.Display.Style

namespace DiffReach.Markup

open Text

inductive Piece where
  | text (cs : List Char)
  | tag (name : List Char) (argument : Option (List Char))

def beginsTag (c : Char) : Bool :=
  c.isLower || c == '#' || c == '/' || c == '@'

def tagText? : List Char → Option (List Char)
  | [] => none
  | c :: cs =>
      let inner := cs.takeWhile fun d => d != ']' && d != '['
      if beginsTag c && (cs.drop inner.length).head? == some ']' then some (c :: inner) else none

def tagHere? (cs : List Char) : Option (Nat × List Char) :=
  let slashes := cs.takeWhile (· == '\\')
  match cs.drop slashes.length with
  | '[' :: rest => (tagText? rest).map fun text => (slashes.length, text)
  | _ => none

def textPiece (cs : List Char) : List Piece :=
  if cs.isEmpty then [] else [.text (replaceText ['\\', '['] ['['] cs)]

def tagPiece (text : List Char) : Piece :=
  match text.dropWhile (· != '=') with
  | [] => .tag text none
  | _ :: argument => .tag (text.takeWhile (· != '=')) (some argument)

/-- The pieces of a tag behind backslashes: an odd one shows the tag itself. -/
def tagPieces (slashes : Nat) (text : List Char) : List Piece :=
  textPiece (List.replicate (slashes / 2) '\\')
    ++ (if slashes % 2 = 0 then [tagPiece text] else [.text ('[' :: (text ++ [']']))])

/-- The pieces of a text, after some characters that are skipped and the text before them, the last
character first. -/
def pieces : Nat → List Char → List Char → List Piece
  | _, before, [] => textPiece before.reverse
  | skip + 1, before, _ :: cs => pieces skip before cs
  | 0, before, c :: cs =>
      match tagHere? (c :: cs) with
      | some (slashes, text) =>
          textPiece before.reverse ++ tagPieces slashes text
            ++ pieces (slashes + text.length + 1) [] cs
      | none => pieces 0 (c :: before) cs

def isControl (c : Char) : Bool :=
  [7, 8, 11, 12, 13].elem c.toNat

structure Opened where
  start : Nat
  name : String
  argument : Option (List Char)

structure Span where
  start : Nat
  stop : Nat
  style : List Char

structure Shown where
  text : List Char
  spans : List Span

/-- The tag that a closing one closes, and the others that stay open: the last one with its name, or
the last of all if it has none. -/
def close? (name : Option String) : List Opened → Option (Opened × List Opened)
  | [] => none
  | tag :: rest =>
      if name.isNone || name == some tag.name then some (tag, rest)
      else (close? name rest).map fun (closed, others) => (closed, tag :: others)

def argumentReads (argument : List Char) : Bool :=
  let cs := trim argument
  match cs.dropWhile fun c => isWord c || c == '.' with
  | [] => true
  | '(' :: rest =>
      let hasHandler := rest.getLast? == some ')' && !rest.elem '\n'
      Display.Literal.isLiteral (if hasHandler then '(' :: rest else cs)
  | _ => Display.Literal.isLiteral cs

namespace Opened

def isHandler (tag : Opened) : Bool :=
  tag.name.startsWith "@"

def closes (tag : Opened) : Bool :=
  !tag.isHandler || argumentReads (tag.argument.getD [])

def span (tag : Opened) (stop : Nat) : Span :=
  ⟨tag.start, stop, tag.name.toList ++ (tag.argument.elim [] fun argument => ' ' :: argument)⟩

end Opened

def visible (shown : Shown) (opened : List Opened) : List Piece → Except Fault Shown
  | [] => .ok { shown with spans := shown.spans ++ opened.map (·.span shown.text.length) }
  | .text cs :: rest =>
      let more := (Display.withPictures cs).filter fun c => !isControl c
      visible { shown with text := shown.text ++ more } opened rest
  | .tag ('/' :: name) _ :: rest => do
      let name ← if (trim name).isEmpty then pure none
        else (Display.normalStyle (trim name)).map some
      match close? name opened with
      | some (tag, opened) =>
          let spans := if tag.isHandler then [] else [tag.span shown.text.length]
          if tag.closes then visible { shown with spans := shown.spans ++ spans } opened rest
          else .error .badMarkup
      | none => .error .badMarkup
  | .tag name argument :: rest => do
      let name ← Display.normalStyle name
      visible shown (⟨shown.text.length, name, argument⟩ :: opened) rest

def read (s : String) : Except Fault Shown :=
  visible ⟨[], []⟩ [] (pieces 0 [] s.toList)

namespace Shown

/-- Whether a part is drawn: one that covers nothing, or only ends of lines, is not, unless the text
is a single line without tabs. -/
def draws (shown : Shown) (span : Span) : Bool :=
  ((shown.text.take span.stop).drop span.start).any (· != '\n')
    || !shown.text.any fun c => c == '\n' || c == '\t'

def draw (shown : Shown) : Except Fault (List Char) := do
  for span in shown.spans do
    if shown.draws span then
      let _ ← Display.normalStyle span.style
  pure shown.text

end Shown

end DiffReach.Markup
