import DiffReach.Ascending
import DiffReach.Number.Numeral
import DiffReach.Text.Lines

namespace DiffReach.Patch

open Text

def digitRun? (cs : List Char) : Option (List Char × List Char) :=
  match cs.takeWhile isDigit with
  | [] => none
  | run => some (run, cs.dropWhile isDigit)

def skipCount (cs : List Char) : List Char :=
  match cs with
  | ',' :: rest => match digitRun? rest with
      | some (_, after) => after
      | none => cs
  | _ => cs

def headerStart? (line : List Char) : Option (List Char) := do
  let afterAt ← "@@ -".toList.isPrefixOf? line
  let (_, afterOld) ← digitRun? afterAt
  let afterPlus ← " +".toList.isPrefixOf? (skipCount afterOld)
  let (start, afterNew) ← digitRun? afterPlus
  let _ ← " @@".toList.isPrefixOf? (skipCount afterNew)
  pure start

def isFileHeader (line : List Char) : Bool :=
  "+++ ".toList.isPrefixOf line || "--- ".toList.isPrefixOf line

/-- The numbers of the added lines, where `next` is the number of the next line of the new file and
zero before the first hunk. Removed lines and markers leave the number alone. -/
def addedFrom (next : Nat) : List (List Char) → Except Fault (List Nat)
  | [] => .ok []
  | line :: rest =>
      match headerStart? line with
      | some start =>
          match Numeral.natural (start.filterMap digitValue?) with
          | .ok n => addedFrom n rest
          | .error e => .error e
      | none =>
          if next = 0 || isFileHeader line then addedFrom next rest
          else match line with
            | '+' :: _ => (addedFrom (next + 1) rest).map (next :: ·)
            | ' ' :: _ => addedFrom (next + 1) rest
            | _ => addedFrom next rest

def changedLines (patch : String) : Except Fault (List Int) :=
  (addedFrom 0 (splitOn '\n' patch.toList)).map fun added =>
    Ascending.ofList (added.map Int.ofNat)

end DiffReach.Patch
