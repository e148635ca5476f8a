import DiffReach.CallGraph.Reachability
import DiffReach.Finding
import DiffReach.Limits
import DiffReach.Path

namespace DiffReach

inductive Verdict where
  | notFetched
  | noFunction
  | reached (function : String) (chain : List CallGraph.Link)
  | unreached (function : String) (entrypoints : List String)
  deriving DecidableEq

namespace Verdict

inductive Class where
  | verified
  | refuted
  | unknown
  deriving DecidableEq

def Class.text : Class → String
  | .verified => "VERIFIED"
  | .refuted => "REFUTED"
  | .unknown => "UNKNOWN"

def toClass : Verdict → Class
  | .notFetched | .noFunction => .unknown
  | .reached .. => .verified
  | .unreached .. => .refuted

def reason : Verdict → String
  | .notFetched => "File not fetched from code host (private repo or missing token)."
  | .noFunction => "Could not locate containing function."
  | .reached .. => "Reachable from an HTTP entrypoint (static callgraph)."
  | .unreached .. => "Not reachable from any detected entrypoint (static callgraph)."

def function? : Verdict → Option String
  | .notFetched | .noFunction => none
  | .reached function _ | .unreached function _ => some function

def linkValue (link : CallGraph.Link) : Value :=
  .object [
    ("fn", .str link.function),
    ("file", match link.file with | none => .null | some file => .str file)]

def evidence : Verdict → Value
  | .notFetched | .noFunction => .null
  | .reached _ chain => .object [("chain", .list (chain.map linkValue))]
  | .unreached _ entrypoints => .object [("entrypoints", .list (entrypoints.map .str))]

end Verdict

structure Evidence where
  graph : CallGraph
  entrypoints : List String
  sources : Dict String

/-- The texts of the sources by normalised path; of two equal paths the last counts. -/
def Evidence.texts (e : Evidence) : Dict String :=
  Dict.gather (e.sources.map fun source => (Path.normalize source.1, source.2))

def Evidence.parents (e : Evidence) : CallGraph.Parents :=
  e.graph.reach e.entrypoints

def Evidence.judgeWith (e : Evidence) (maxDepth : Value) (parents : CallGraph.Parents)
    (texts : Dict String) (shown : List String) (f : Finding) : Except Fault Verdict :=
  match texts.fetch (Path.normalize f.filePath) with
  | none => .ok .notFetched
  | some text =>
      match Source.containingFunction text f.lineNumber with
      | none => .ok .noFunction
      | some function =>
          if parents.holds function then
            (parents.chainWithin e.graph.definedIn maxDepth function).map (.reached function)
          else .ok (.unreached function shown)

def Evidence.judge (e : Evidence) (limits : Limits) (f : Finding) : Except Fault Verdict := do
  let shown ← limits.maxEvidenceEntrypoints.cut (Ascending.ofList e.entrypoints)
  e.judgeWith limits.maxChainDepth e.parents e.texts shown f

def Evidence.judgeEach (e : Evidence) (maxDepth : Value) (parents : CallGraph.Parents)
    (texts : Dict String) (shown : List String) :
    List Finding → Except Fault (List (Finding × Verdict))
  | [] => .ok []
  | f :: rest => do
      let verdict ← e.judgeWith maxDepth parents texts shown f
      let verdicts ← judgeEach e maxDepth parents texts shown rest
      pure ((f, verdict) :: verdicts)

def firstFindings (limits : Limits) (findings : List Finding) : Session (List Finding) := do
  let isOver ← Session.settle (limits.maxFindings.isExceededBy findings.length)
  if isOver then
    Session.report (.findingsTruncated limits.maxFindings findings.length)
    Session.settle (limits.maxFindings.cut findings)
  else pure findings

def Evidence.verify (e : Evidence) (limits : Limits) (findings : List Finding) :
    Session (List (Finding × Verdict)) := do
  let shown ← Session.settle
    (limits.maxEvidenceEntrypoints.cut (Ascending.ofList e.entrypoints))
  let chosen ← firstFindings limits findings
  Session.settle (e.judgeEach limits.maxChainDepth e.parents e.texts shown chosen)

structure Report where
  commit : Option String
  verdicts : List (Finding × Verdict)

namespace Report

def count (r : Report) (c : Verdict.Class) : Nat :=
  (r.verdicts.filter fun entry => entry.2.toClass = c).length

def entryValue (entry : Finding × Verdict) : Value :=
  let (f, v) := entry
  .object [
    ("finding_id", .str f.findingId),
    ("rule_id", .str f.ruleId),
    ("file_path", .str f.filePath),
    ("line_number", .int f.lineNumber),
    ("verdict", .str v.toClass.text),
    ("reason", .str v.reason),
    ("containing_function", match v.function? with | none => .null | some name => .str name),
    ("evidence", v.evidence)]

def toValue (r : Report) : Value :=
  .object [
    ("commit_hash", match r.commit with | none => .null | some commit => .str commit),
    ("verified_count", .int (r.count .verified)),
    ("refuted_count", .int (r.count .refuted)),
    ("unknown_count", .int (r.count .unknown)),
    ("results", .list (r.verdicts.map entryValue))]

end Report

end DiffReach
