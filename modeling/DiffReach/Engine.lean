import DiffReach.CallGraph.Dot
import DiffReach.CheckRun.Emitter
import DiffReach.Snapshot
import DiffReach.Verdict

namespace DiffReach

open Host

structure Engine where
  client : Client
  limits : Limits
  extractor : Source.Extractor
  emitter : CheckRun.Emitter

structure Sources where
  texts : Dict String
  extraction : Source.Extraction
  graph : CallGraph

namespace Engine

def create (client : Client) (limits : Limits) (appUrl : String) : Engine where
  client
  limits
  extractor := { lookahead := limits.entrypointLookahead }
  emitter := .create client limits appUrl CheckRun.defaultName

def spelled (s : Option String) : String :=
  s.getD "None"

def scope (e : Engine) (url commit : Option String) : Session (Option Scope) :=
  Scope.resolve e.client e.limits url commit

def scan (e : Engine) (texts : Dict String) : Except Fault Sources :=
  (e.extractor.extract texts).map fun extraction =>
    { texts, extraction, graph := .ofExtraction e.extractor extraction }

def snapshot (e : Engine) (url commit : Option String)
    (fetch : Snapshot.Fetch := Snapshot.fetchEach e.client) : Session Sources := do
  let texts ← match Repository.path? (url.getD "") with
    | some repository =>
        Snapshot.sources e.client e.limits Snapshot.pythonSuffixes repository (spelled commit) fetch
    | none => do
        Session.report (.snapshotWithoutRepository (spelled url))
        pure []
  let found ← Session.settle (e.scan texts)
  Session.report (.graphBuilt found.graph.edges.length found.extraction.entrypoints.length)
  pure found

def verify (e : Engine) (url commit : Option String) (findings : List Finding)
    (fetch : Snapshot.Fetch := Snapshot.fetchEach e.client) : Session Report := do
  let found ← e.snapshot url commit fetch
  let evidence : Evidence := ⟨found.graph, found.extraction.entrypoints, found.texts⟩
  let verdicts ← evidence.verify e.limits findings
  pure ⟨commit, verdicts⟩

def classify (findings : List Finding) (scope : Option Scope) : List Finding :=
  findings.map (Scope.label scope)

def annotate (e : Engine) (url commit : Option String) (findings : List Finding) (passed : Bool)
    (scanId : String) (publish : Bool) : Session (CheckRun.Payload × Bool) := do
  let scope ← e.scope url commit
  let payload ← Session.settle (e.emitter.build passed (classify findings scope) scope scanId)
  if publish then
    let published ← e.emitter.publish payload url commit
    pure (payload, published)
  else pure (payload, false)

end Engine

end DiffReach
