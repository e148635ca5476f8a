import DiffReach.Ascending
import DiffReach.Text.Character
import DiffReach.Text.Lines
import DiffReach.Text.Word

namespace DiffReach.Source

open Text

/-- The name before the current character, its last character first, and whether blanks follow it.
-/
structure Pending where
  name : List Char
  gapped : Bool

namespace Pending

def empty : Pending :=
  ⟨[], false⟩

def word (p : Pending) (c : Char) : Pending :=
  if !p.gapped && !p.name.isEmpty then ⟨c :: p.name, false⟩
  else if isNameStart c then ⟨[c], false⟩
  else empty

def next (p : Pending) (c : Char) : Pending :=
  if isWord c then p.word c
  else if isBlank c then ⟨p.name, true⟩
  else empty

end Pending

def calledFrom (p : Pending) : List Char → List (List Char)
  | [] => []
  | c :: cs =>
      if c = '(' && !p.name.isEmpty then p.name.reverse :: calledFrom .empty cs
      else calledFrom (p.next c) cs

/-- Words that may stand before a parenthesis without being called. -/
def keywords : List String := [
  "def", "if", "elif", "for", "while", "return", "print", "with",
  "not", "and", "or", "in", "lambda", "except", "assert", "yield"]

def calls (stoplist : List String) (body : List String) : List String :=
  Ascending.ofList (((calledFrom .empty (unlines body).toList).map String.ofList).filter fun name =>
    !stoplist.elem name)

end DiffReach.Source
