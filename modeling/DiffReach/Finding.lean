import DiffReach.Value

namespace DiffReach

structure Finding where
  ruleId : String
  filePath : String
  lineNumber : Int
  severity : String
  message : String
  category : String
  snippet : Value
  isNew : Option Bool
  isSuppressed : Bool
  newReason : Value
  findingId : String

namespace Finding

def defaultId (ruleId filePath : String) (lineNumber : Int) : String :=
  s!"{ruleId}::{filePath}::{lineNumber}"

/-- A line that cannot be read as an integer is the first one. -/
def readLine (v : Value) : Except Fault Int :=
  match v.toInt with
  | .ok n => .ok n
  | .error fault => if fault.isUnreadable then .ok 1 else .error fault

def readNewness : Value → Option Bool
  | .null => none
  | v => some v.truthy

def ofFields (fields : Dict Value) : Except Fault Finding :=
  let get := fun name => (fields.fetch name).getD .null
  let filePath := ((get "file_path").orElse (get "file")).textOrEmpty
  match readLine (((get "line_number").orElse (get "line")).orElse (.int 1)) with
  | .error fault => .error fault
  | .ok lineNumber =>
      let ruleId := (get "rule_id").textOrEmpty
      let givenId := (get "finding_id").textOrEmpty
      .ok {
        ruleId
        filePath
        lineNumber
        severity := (get "severity").textOrEmpty
        message := (get "message").textOrEmpty
        category := (get "category").textOrEmpty
        snippet := get "snippet"
        isNew := readNewness (get "is_new")
        isSuppressed := (get "is_suppressed").truthy
        newReason := get "new_reason"
        findingId := if givenId = "" then defaultId ruleId filePath lineNumber else givenId }

def ofValue : Value → Except Fault Finding
  | .object fields => ofFields fields
  | _ => .error .notObject

def toValue (f : Finding) : Value :=
  .object [
    ("rule_id", .str f.ruleId),
    ("file_path", .str f.filePath),
    ("line_number", .int f.lineNumber),
    ("severity", .str f.severity),
    ("message", .str f.message),
    ("category", .str f.category),
    ("snippet", f.snippet),
    ("is_new", match f.isNew with | none => .null | some b => .bool b),
    ("is_suppressed", .bool f.isSuppressed),
    ("new_reason", f.newReason),
    ("finding_id", .str f.findingId)]

end Finding

end DiffReach
