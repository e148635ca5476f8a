import DiffReach.Display.Colour
import DiffReach.Text.Character

namespace DiffReach.Display

open Text

/-- The effects in the order in which a normal form has them, each with its short name. -/
def effects : List (String × Option String) := [
  ("bold", some "b"), ("dim", some "d"), ("italic", some "i"), ("underline", some "u"),
  ("blink", none), ("blink2", none), ("reverse", some "r"), ("conceal", some "c"),
  ("strike", some "s"), ("underline2", some "uu"), ("frame", none), ("encircle", none),
  ("overline", some "o")]

def effect? (word : String) : Option String :=
  (effects.find? fun entry => entry.1 == word || entry.2 == some word).map Prod.fst

structure Style where
  effects : List (String × Bool) := []
  colour : Option String := none
  ground : Option String := none
  link : Option String := none

namespace Style

def setEffect (s : Style) (name : String) (isOn : Bool) : Style :=
  { s with effects := (name, isOn) :: s.effects }

def addWords (s : Style) : List (List Char) → Except Fault (Option Style)
  | [] => .ok (some s)
  | word :: words =>
      let name := String.ofList (toSmall word)
      if name == "on" then
        match words with
        | [] => .ok none
        | next :: words => do
            match ← colour? next with
            | some colour => addWords { s with ground := some colour } words
            | none => pure none
      else if name == "not" then
        match words with
        | [] => .ok none
        | next :: words =>
            match effect? (String.ofList next) with
            | some effect => addWords (s.setEffect effect false) words
            | none => .ok none
      else if name == "link" then
        match words with
        | [] => .ok none
        | next :: words => addWords { s with link := some (String.ofList next) } words
      else match effect? name with
        | some effect => addWords (s.setEffect effect true) words
        | none => do
            match ← colour? word with
            | some colour => addWords { s with colour := some colour } words
            | none => pure none

def words (s : Style) : List String :=
  (Display.effects.filterMap fun entry =>
    (s.effects.lookup entry.1).map fun isOn => if isOn then entry.1 else "not " ++ entry.1)
    ++ s.colour.toList
    ++ (s.ground.map fun name => "on " ++ name).toList
    ++ (s.link.map fun url => "link " ++ url).toList

def text (s : Style) : String :=
  match s.words with
  | [] => "none"
  | words => String.intercalate " " words

end Style

def wordsOf (cs : List Char) : List (List Char) :=
  let (current, words) := cs.foldr (fun c (current, words) =>
    if isBlank c then ([], if current.isEmpty then words else current :: words)
    else (c :: current, words)) (([] : List Char), ([] : List (List Char)))
  if current.isEmpty then words else current :: words

/-- The normal form of a style; a text that is no style is its own, in small letters and without
blanks around it. -/
def normalStyle (cs : List Char) : Except Fault String := do
  if trim cs == "none".toList then pure "none"
  else
    match ← Style.addWords {} (wordsOf cs) with
    | some s => pure s.text
    | none => pure (String.ofList (toSmall (trim cs)))

end DiffReach.Display
