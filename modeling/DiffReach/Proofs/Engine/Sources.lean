import DiffReach.Engine
import DiffReach.Proofs.Snapshot.Downloads
import DiffReach.Proofs.Verdict

namespace DiffReach

def Verdict.IsNotFetched (v : Verdict) : Prop :=
  v.toClass = .unknown ∧
    v.reason = "File not fetched from code host (private repo or missing token)."

namespace Engine

open Host

def sourceTexts (e : Engine) (url commit : Option String) : Session (Dict String) :=
  match Repository.path? (url.getD "") with
  | some repository =>
      Snapshot.sources e.client e.limits Snapshot.pythonSuffixes repository (spelled commit)
  | none => do
      Session.report (.snapshotWithoutRepository (spelled url))
      pure []

theorem snapshot_eq (e : Engine) (url commit : Option String) : e.snapshot url commit = (do
    let texts ← e.sourceTexts url commit
    let found ← Session.settle (e.scan texts)
    Session.report (.graphBuilt found.graph.edges.length found.extraction.entrypoints.length)
    pure found) := by
  rw [snapshot, sourceTexts]
  cases Repository.path? (url.getD "") with
  | none => rfl
  | some repository => rfl

variable {client : Client} {limits : Limits} {url commit : Option String} {network : Network}
  {journal : Journal} {texts : Dict String}

theorem sourceTexts_of_path {e : Engine} {repository : String}
    (h : Repository.path? (url.getD "") = some repository) : e.sourceTexts url commit =
      Snapshot.sources e.client e.limits Snapshot.pythonSuffixes repository (spelled commit) := by
  rw [sourceTexts, h]

theorem run_sourceTexts_of_none {e : Engine} (h : Repository.path? (url.getD "") = none) :
    ((e.sourceTexts url commit).run network journal).1 = .ok [] := by
  rw [sourceTexts, h]
  rfl

theorem exists_extract (client : Client) (hl : limits.Positive) (appUrl : String)
    (texts : Dict String) :
    ∃ found, (create client limits appUrl).extractor.extract texts = .ok found := by
  have hwhole : limits.entrypointLookahead = .int (limits.count .entrypointLookahead) :=
    hl.get_eq .entrypointLookahead (by decide)
  have hextractor : (create client limits appUrl).extractor =
      ⟨.int (limits.count .entrypointLookahead), Source.keywords⟩ := by
    rw [create, hwhole]
  rw [hextractor]
  exact Source.exists_extract_eq_ok _ _ _

theorem run_snapshot {e : Engine} {found : Source.Extraction}
    (htexts : ((e.sourceTexts url commit).run network journal).1 = .ok texts)
    (hfound : e.extractor.extract texts = .ok found) :
    ∃ later, (e.snapshot url commit).run network journal =
      (.ok ⟨texts, found, .ofExtraction e.extractor found⟩, later) := by
  cases hrun : (e.sourceTexts url commit).run network journal with
  | mk outcome middle =>
    rw [hrun] at htexts
    obtain rfl : outcome = .ok texts := htexts
    rw [snapshot_eq, Session.run_bind_of_ok hrun, scan, hfound]
    exact ⟨_, rfl⟩

theorem exists_judge (hl : limits.Positive) (appUrl : String)
    (htexts : (((create client limits appUrl).sourceTexts url commit).run network journal).1 =
      .ok texts) :
    let e := create client limits appUrl
    ∃ (found : Source.Extraction) (judge : Finding → Verdict),
      e.extractor.extract texts = .ok found ∧
      ((e.snapshot url commit).run network journal).1 =
        .ok ⟨texts, found, .ofExtraction e.extractor found⟩ ∧
      (∀ findings, ((e.verify url commit findings).run network journal).1 =
        .ok ⟨commit, (findings.take (limits.count .maxFindings)).map fun f => (f, judge f)⟩) ∧
      ∀ f, (Evidence.ofScan e.extractor found found.entrypoints texts).Justifies limits f
        (judge f) := by
  intro e
  obtain ⟨found, hfound⟩ := exists_extract client hl appUrl texts
  obtain ⟨judge, hverify, hjust⟩ :=
    Evidence.exists_judge (Evidence.extracted_ofScan hfound found.entrypoints) hl
  obtain ⟨later, hsnapshot⟩ := run_snapshot htexts hfound
  refine ⟨found, judge, hfound, by rw [hsnapshot], fun findings => ?_, hjust⟩
  have hrun := hverify findings network later
  rw [verify, Session.run_bind_of_ok hsnapshot, Session.run_map]
  change Except.map _ ((Evidence.verify (Evidence.ofScan e.extractor found found.entrypoints texts)
    limits findings).run network later).1 = _
  rw [hrun]
  rfl

theorem isNotFetched_of_lacks {e : Evidence} {f : Finding} {v : Verdict}
    (hjust : e.Justifies limits f v)
    (h : ∀ path ∈ e.sources.names, Path.normalize path ≠ Path.normalize f.filePath) :
    v.IsNotFetched := by
  have hlacks : e.Lacks f := by
    intro source hsource
    exact h source.1 (List.mem_map.mpr ⟨source, hsource, rfl⟩)
  rw [hjust.not_fetched.mpr hlacks]
  exact ⟨rfl, rfl⟩

section Relay

def relayUrl : Option String :=
  some "https://github.com/acme/shop"

def handlerFileUrl : String :=
  "https://api.github.com/repos/acme/shop/contents/a.py"

def helperFileUrl : String :=
  "https://api.github.com/repos/acme/shop/contents/b.py"

def relayFile (whole : Bool) (url : String) : Response :=
  if url = handlerFileUrl then
    if whole then encodedFile "QGFwcC5nZXQoIi8iKQpkZWYgaGFuZGxlcigpOgogICAgaGVscGVyKCkK"
    else ⟨404, .raw "", none⟩
  else if url = helperFileUrl then encodedFile "ZGVmIGhlbHBlcigpOgogICAgZXZhbCh4KQo="
  else ⟨404, .raw "", none⟩

/-- A network with a handler in one file and its helper in another, of which the first may be out of
reach; so is all else. -/
def relayNetwork (whole : Bool) : Network := fun _ r =>
  match r.action with
  | .get (some [(_, .int _)]) => .response ⟨200, .document relayTree, none⟩
  | .get (some [(_, .str _)]) => .response (relayFile whole r.url)
  | _ => .breakdown .timeout "slow"

def relayFinding (path : String) : Finding :=
  ⟨"A", path, 2, "high", "eval", "security", .null, none, false, .null, "A"⟩

theorem path?_relayUrl : Repository.path? (relayUrl.getD "") = some "acme/shop" := by
  decide +kernel

theorem isContents_relayFile (whole : Bool) (url : String) :
    (Reply.response (relayFile whole url)).fails = true ∨
      ∃ v, (Reply.response (relayFile whole url)).document = .ok v ∧ Snapshot.IsContents v := by
  have hascii : Snapshot.IsAscii "QGFwcC5nZXQoIi8iKQpkZWYgaGFuZGxlcigpOgogICAgaGVscGVyKCkK" ∧
      Snapshot.IsAscii "ZGVmIGhlbHBlcigpOgogICAgZXZhbCh4KQo=" := by
    decide +kernel
  by_cases hhandler : url = handlerFileUrl
  · rw [relayFile, if_pos hhandler]
    cases whole with
    | false => exact Or.inl rfl
    | true => exact Or.inr (Snapshot.exists_document_encodedFile hascii.1)
  · rw [relayFile, if_neg hhandler]
    by_cases hhelper : url = helperFileUrl
    · rw [if_pos hhelper]
      exact Or.inr (Snapshot.exists_document_encodedFile hascii.2)
    · rw [if_neg hhelper]
      exact Or.inl rfl

end Relay

end Engine

end DiffReach
