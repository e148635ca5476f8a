import DiffReach.Cap
import DiffReach.Session

namespace DiffReach

structure Limits where
  maxPullFilePages : Value := .int 20
  pullFilesPerPage : Value := .int 100
  maxTreeCandidates : Value := .int 250
  maxFetchedFiles : Value := .int 80
  maxFindings : Value := .int 200
  maxAnnotations : Value := .int 50
  maxChainDepth : Value := .int 50
  maxEvidenceEntrypoints : Value := .int 20
  entrypointLookahead : Value := .int 5
  fetchWorkers : Value := .int 8
  requestTimeout : Value := .float (.finite false 5629499534213120 (-48))
  maxRawDetails : Value := .int 60000

namespace Limits

inductive Key where
  | maxPullFilePages
  | pullFilesPerPage
  | maxTreeCandidates
  | maxFetchedFiles
  | maxFindings
  | maxAnnotations
  | maxChainDepth
  | maxEvidenceEntrypoints
  | entrypointLookahead
  | fetchWorkers
  | requestTimeout
  | maxRawDetails
  deriving DecidableEq

namespace Key

def all : List Key := [
  .maxPullFilePages, .pullFilesPerPage, .maxTreeCandidates, .maxFetchedFiles, .maxFindings,
  .maxAnnotations, .maxChainDepth, .maxEvidenceEntrypoints, .entrypointLookahead, .fetchWorkers,
  .requestTimeout, .maxRawDetails]

def name : Key → String
  | .maxPullFilePages => "max_pr_file_pages"
  | .pullFilesPerPage => "pr_files_per_page"
  | .maxTreeCandidates => "max_tree_candidates"
  | .maxFetchedFiles => "max_fetched_files"
  | .maxFindings => "max_findings"
  | .maxAnnotations => "max_annotations"
  | .maxChainDepth => "max_chain_depth"
  | .maxEvidenceEntrypoints => "max_evidence_entrypoints"
  | .entrypointLookahead => "entrypoint_lookahead"
  | .fetchWorkers => "fetch_workers"
  | .requestTimeout => "request_timeout"
  | .maxRawDetails => "max_raw_details"

def ofName? (name : String) : Option Key :=
  all.find? fun key => key.name == name

def kind : Key → String
  | .requestTimeout => "float"
  | _ => "int"

end Key

inductive Amount where
  | whole (n : Int)
  | real (x : Binary64)

namespace Amount

def atMostZero : Amount → Bool
  | .whole n => decide (n ≤ 0)
  | .real x => x.atMostZero

def toValue : Amount → Value
  | .whole n => .int n
  | .real x => .float x

end Amount

def Key.read (key : Key) (v : Value) : Except Fault Amount :=
  match key with
  | .requestTimeout => v.toBinary64.map .real
  | _ => v.toInt.map .whole

def get (l : Limits) : Key → Value
  | .maxPullFilePages => l.maxPullFilePages
  | .pullFilesPerPage => l.pullFilesPerPage
  | .maxTreeCandidates => l.maxTreeCandidates
  | .maxFetchedFiles => l.maxFetchedFiles
  | .maxFindings => l.maxFindings
  | .maxAnnotations => l.maxAnnotations
  | .maxChainDepth => l.maxChainDepth
  | .maxEvidenceEntrypoints => l.maxEvidenceEntrypoints
  | .entrypointLookahead => l.entrypointLookahead
  | .fetchWorkers => l.fetchWorkers
  | .requestTimeout => l.requestTimeout
  | .maxRawDetails => l.maxRawDetails

def set (l : Limits) : Key → Value → Limits
  | .maxPullFilePages, v => { l with maxPullFilePages := v }
  | .pullFilesPerPage, v => { l with pullFilesPerPage := v }
  | .maxTreeCandidates, v => { l with maxTreeCandidates := v }
  | .maxFetchedFiles, v => { l with maxFetchedFiles := v }
  | .maxFindings, v => { l with maxFindings := v }
  | .maxAnnotations, v => { l with maxAnnotations := v }
  | .maxChainDepth, v => { l with maxChainDepth := v }
  | .maxEvidenceEntrypoints, v => { l with maxEvidenceEntrypoints := v }
  | .entrypointLookahead, v => { l with entrypointLookahead := v }
  | .fetchWorkers, v => { l with fetchWorkers := v }
  | .requestTimeout, v => { l with requestTimeout := v }
  | .maxRawDetails, v => { l with maxRawDetails := v }

def ofGiven (given : Dict Value) : Except Fault Limits :=
  given.foldlM (fun l (name, v) =>
    match Key.ofName? name with
    | some key => .ok (l.set key v)
    | none => .error .unknownName) {}

/-- The limits after one setting. A name that is no limit has no effect; a value that cannot be read
or is not positive is reported and has no effect either. -/
def override (l : Limits) (name : String) (v : Value) : Except Fault (Limits × Option Event) :=
  match Key.ofName? name with
  | none => .ok (l, none)
  | some key =>
      match key.read v with
      | .ok amount =>
          if amount.atMostZero then .ok (l, some (.limitNotPositive name v))
          else .ok (l.set key amount.toValue, none)
      | .error fault =>
          if fault.isUnreadable then .ok (l, some (.limitUnreadable name v key.kind))
          else .error fault

def overrideAll (l : Limits) : Dict Value → Session Limits
  | [] => pure l
  | (name, v) :: rest => do
      let (l, event) ← Session.settle (l.override name v)
      match event with
      | none => pure ()
      | some event => Session.report event
      overrideAll l rest

def ofSettings (settings : Dict Value) : Session Limits :=
  overrideAll {} settings

def entries (l : Limits) : Dict Value :=
  Key.all.map fun key => (key.name, l.get key)

def toValue (l : Limits) : Value :=
  .object l.entries

end Limits

end DiffReach
