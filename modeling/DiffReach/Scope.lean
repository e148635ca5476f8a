import DiffReach.Ascending
import DiffReach.Finding
import DiffReach.Path

namespace DiffReach

/-- What a pull request changes. Files and lines are ascending lists without repetition; a changed
file has its lines in `changedLines` or is in `missingPatch`, where it counts as wholly changed. -/
structure Scope where
  repository : String
  pullNumber : Int
  baseRef : String
  baseCommit : String
  headCommit : String
  changedFiles : List String
  changedLines : Dict (List Int)
  missingPatch : List String

inductive Newness where
  | changedLine
  | wholeFile
  | noPull
  deriving DecidableEq

def Newness.text : Newness → String
  | .changedLine => "pr-changed-line"
  | .wholeFile => "pr-file-fallback"
  | .noPull => "non-pr"

namespace Scope

def judge (scope : Option Scope) (filePath : String) (lineNumber : Int) : Bool × Option Newness :=
  match scope with
  | none => (true, some .noPull)
  | some scope =>
      let path := Path.normalize filePath
      match scope.changedLines.fetch path with
      | some lines => (lines.elem lineNumber, some .changedLine)
      | none => if scope.changedFiles.elem path then (true, some .wholeFile) else (false, none)

def classify (scope : Option Scope) (f : Finding) : Bool × Option Newness :=
  judge scope f.filePath f.lineNumber

def isNew (scope : Option Scope) (filePath : String) (lineNumber : Int) : Bool :=
  (judge scope filePath lineNumber).1

def label (scope : Option Scope) (f : Finding) : Finding :=
  match f.isNew with
  | some _ => f
  | none =>
      let (isNew, reason) := classify scope f
      { f with
        isNew := some isNew
        newReason := match reason with | none => .null | some r => .str r.text }

def sortedEntries (d : Dict (List Int)) : Dict (List Int) :=
  (Ascending.ofList d.names).map fun path => (path, (d.fetch path).getD [])

def toValue (scope : Scope) : Value :=
  .object [
    ("repo_path", .str scope.repository),
    ("pull_request_number", .int scope.pullNumber),
    ("base_ref", .str scope.baseRef),
    ("base_commit", .str scope.baseCommit),
    ("head_commit", .str scope.headCommit),
    ("changed_files", .list (scope.changedFiles.map .str)),
    ("changed_lines_by_file", .object ((sortedEntries scope.changedLines).map fun entry =>
      (entry.1, .list (entry.2.map .int)))),
    ("files_missing_patch", .list (scope.missingPatch.map .str))]

end Scope

end DiffReach
