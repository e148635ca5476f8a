import DiffReach.Finding
import DiffReach.Limits
import DiffReach.Path
import DiffReach.Text.Character

namespace DiffReach.CheckRun

inductive Level where
  | failure
  | warning
  | notice
  deriving DecidableEq

def Level.text : Level → String
  | .failure => "failure"
  | .warning => "warning"
  | .notice => "notice"

def Level.ofSeverity (severity : String) : Level :=
  let capitals := String.ofList (severity.toList.map Text.capital)
  if capitals = "CRITICAL" || capitals = "HIGH" then .failure
  else if capitals = "MEDIUM" then .warning
  else .notice

def Level.ofValue (v : Value) : Level :=
  .ofSeverity v.textOrEmpty

structure Remark where
  path : String
  line : Int
  level : Level
  title : String
  message : String
  details : Option Value

namespace Remark

def details? (limit snippet : Value) : Except Fault (Option Value) :=
  let head : Except Fault Value := match snippet.orElse (.str "") with
    | .str s => (limit.cut s.toList).map fun cs => .str (String.ofList cs)
    | .torn t => (limit.cut t.codes).map .ofCodes
    | .list items => (limit.cut items).map .list
    | _ => .error .notSliceable
  head.map fun v => if v.truthy then some v else none

/-- The remark on a finding. A finding at line zero is shown at the first line. -/
def ofFinding (limits : Limits) (f : Finding) : Except Fault Remark := do
  let details ← details? limits.maxRawDetails f.snippet
  pure {
    path := Path.normalize f.filePath
    line := if f.lineNumber = 0 then 1 else f.lineNumber
    level := .ofSeverity f.severity
    title := f.ruleId ++ (if f.category = "" then "" else " • " ++ f.category)
    message := (if f.message = "" then "Issue" else f.message)
      ++ (if f.newReason.truthy then " [scope:" ++ f.newReason.text ++ "]" else "")
    details }

def toValue (r : Remark) : Value :=
  .object ([
    ("path", .str r.path),
    ("start_line", .int r.line),
    ("end_line", .int r.line),
    ("annotation_level", .str r.level.text),
    ("title", .str r.title),
    ("message", .str r.message)]
    ++ (match r.details with
        | none => []
        | some details => [("raw_details", details)]))

end Remark

end DiffReach.CheckRun
