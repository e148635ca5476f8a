import DiffReach.CheckRun.Remark
import DiffReach.Scope

namespace DiffReach.CheckRun

structure Payload where
  passed : Bool
  summary : String
  remarks : List Remark
  omitted : Nat
  detailsUrl : String

namespace Payload

def conclusion (p : Payload) : String :=
  if p.passed then "success" else "failure"

def title (p : Payload) : String :=
  if p.passed then "Quality Gate Passed" else "Quality Gate Failed"

def toValue (p : Payload) : Value :=
  .object [
    ("conclusion", .str p.conclusion),
    ("title", .str p.title),
    ("summary", .str p.summary),
    ("annotations", .list (p.remarks.map Remark.toValue)),
    ("omitted_count", .int p.omitted),
    ("details_url", .str p.detailsUrl)]

def requestBody (p : Payload) (name commit : String) : Value :=
  .object [
    ("name", .str name),
    ("head_sha", .str commit),
    ("status", .str "completed"),
    ("conclusion", .str p.conclusion),
    ("details_url", .str p.detailsUrl),
    ("output", .object [
      ("title", .str p.title),
      ("summary", .str p.summary),
      ("annotations", .list (p.remarks.map Remark.toValue))])]

end Payload

def candidates (findings : List Finding) : List Finding :=
  findings.filter fun f => f.isNew == some true && !f.isSuppressed

def hasReason (reason : Newness) (f : Finding) : Bool :=
  match f.newReason with
  | .str s => s == reason.text
  | _ => false

def hits (reason : Newness) (shown : List Finding) : Nat :=
  (shown.filter (hasReason reason)).length

def firstSeven (s : String) : String :=
  String.ofList (s.toList.take 7)

def hitLines (scope : Option Scope) (shown : List Finding) : List String :=
  match scope with
  | none => []
  | some _ =>
      let byLine := hits .changedLine shown
      let byFile := hits .wholeFile shown
      [s!"- changed-line hits: {byLine}", s!"- file-fallback hits: {byFile}"]

def scopeLines : Option Scope → List String
  | none => [
      "**PR:** (not detected from sha)",
      "**Scope:** (no diff context; showing all is_new findings)"]
  | some scope =>
      let missing := scope.missingPatch.length
      let base := firstSeven scope.baseCommit
      let head := firstSeven scope.headCommit
      let changed := scope.changedFiles.length
      let number := scope.pullNumber
      let ref := scope.baseRef
      [ s!"**PR:** #{number}",
        s!"**Range:** {ref}@{base} → {head}",
        "**Scope:** changed-lines" ++
          (if missing = 0 then ""
            else s!" (fallback-to-file for {missing} file(s) without patch)"),
        s!"**Files changed:** {changed}"]

def omissionLines (shown omitted : Nat) : List String :=
  if omitted = 0 then [] else [s!"Showing first {shown}. {omitted} more omitted.", ""]

def summary (scope : Option Scope) (candidates : List Finding) (shown omitted : Nat)
    (detailsUrl : String) : String :=
  let count := candidates.length
  Text.unlines (
    [s!"**New unsuppressed issues (PR gate):** {count}"]
      ++ hitLines scope candidates
      ++ [""]
      ++ scopeLines scope
      ++ [""]
      ++ omissionLines shown omitted
      ++ ["Open full details: " ++ detailsUrl])

end DiffReach.CheckRun
