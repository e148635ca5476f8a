import DiffReach.Text.Character
import DiffReach.Text.Lines
import DiffReach.Text.Word
import DiffReach.Value

namespace DiffReach.Source

open Text

def afterBlanks? : List Char → Option (List Char)
  | [] => none
  | c :: cs => if isBlank c then some (cs.dropWhile isBlank) else none

def skipAsync (cs : List Char) : List Char :=
  match "async".toList.isPrefixOf? cs with
  | none => cs
  | some rest => (afterBlanks? rest).getD cs

def calledName? : List Char → Option (List Char)
  | [] => none
  | c :: cs =>
      if isNameStart c then
        match (cs.dropWhile isWord).dropWhile isBlank with
        | '(' :: _ => some (c :: cs.takeWhile isWord)
        | _ => none
      else none

def definedChars? (line : List Char) : Option (List Char) := do
  let afterDef ← "def".toList.isPrefixOf? (skipAsync (line.dropWhile isBlank))
  let afterGap ← afterBlanks? afterDef
  calledName? afterGap

def definedName? (line : String) : Option String :=
  (definedChars? line.toList).map String.ofList

/-- The bodies of the functions of a text: from its definition line up to the next one, whatever
their indentation. A name that is defined again keeps its place and takes its last body. -/
def scanBodies : Option String → Dict (List String) → List String → Dict (List String)
  | _, bodies, [] => bodies
  | current, bodies, line :: rest =>
      match definedName? line with
      | some name => scanBodies (some name) (bodies.put name [line]) rest
      | none =>
          match current with
          | none => scanBodies none bodies rest
          | some name =>
              scanBodies current (bodies.put name ((bodies.fetch name).getD [] ++ [line])) rest

def functionBodies (text : String) : Dict (List String) :=
  scanBodies none [] (lines text)

/-- The function of the nearest definition at or above a line; lines below the first are the
first. -/
def containingFunction (text : String) (line : Int) : Option String :=
  ((lines text).take (max 1 line).toNat).reverse.findSome? definedName?

def containingFunctionAt (text : String) (line : Value) : Except Fault (Option String) :=
  (line.orElse (.int 1)).toInt.map (containingFunction text)

end DiffReach.Source
