import DiffReach.Proofs.Source.CallSite
import DiffReach.Proofs.Source.DefinitionLine
import DiffReach.Proofs.Source.Lines
import DiffReach.Proofs.Source.Loss

namespace DiffReach.Source

open Text

def allNames (sources : Dict String) : List String :=
  sources.flatMap fun file => definedNames file.2

def LastFile (sources : Dict String) (name : String) (file : String × String) : Prop :=
  ∃ before after, sources = before ++ file :: after ∧ name ∈ definedNames file.2 ∧
    ∀ later ∈ after, name ∉ definedNames later.2

structure Extracts (stoplist : List String) (sources : Dict String) (found : Extraction)
    (g : CallGraph) : Prop where
  bodies : found.bodies.names = (allNames sources).eraseDups
  definedIn : found.definedIn.names = (allNames sources).eraseDups ∧ g.definedIn = found.definedIn
  edges : g.edges.names = (allNames sources).eraseDups
  last : ∀ name ∈ allNames sources, ∃ file body, LastFile sources name file ∧
    Dict.LastWrite (segments (lines file.2)) name body ∧
    found.bodies.fetch name = some body ∧ g.definedIn.fetch name = some file.1 ∧
    g.edges.fetch name = some (calls stoplist body)
  entrypoints : ∀ name ∈ found.entrypoints, name ∈ g.edges.names
  own : ∀ name callees, g.edges.fetch name = some callees → name ∉ stoplist → name ∈ callees

variable {sources : Dict String} {name : String}

theorem names_allSegments (sources : Dict String) :
    (allSegments sources).map Prod.fst = allNames sources := by
  simp only [allSegments, allNames, definedNames, List.map_flatMap, names_segments]

theorem exists_lastFile {body : List String} (h : Dict.LastWrite (allSegments sources) name body) :
    ∃ file, LastFile sources name file ∧ Dict.LastWrite (segments (lines file.2)) name body := by
  obtain ⟨before, file, after, hsources, hlast, hafter⟩ := Dict.lastWrite_flatMap.mp h
  have hname := Dict.exists_lastWrite_iff.mp ⟨body, hlast⟩
  simp only [names_segments] at hname hafter
  exact ⟨file, ⟨before, after, hsources, hname, hafter⟩, hlast⟩

theorem LastFile.lastWrite {file : String × String} (h : LastFile sources name file) :
    Dict.LastWrite (allFiles sources) name file.1 := by
  obtain ⟨before, after, hsources, hname, hafter⟩ := h
  rw [definedNames, ← names_segments] at hname
  obtain ⟨body, hbody⟩ := Dict.exists_lastWrite_iff.mpr hname
  have hpath : Dict.LastWrite (Dict.mapValues (fun _ => file.1) (segments (lines file.2))) name
      file.1 := Dict.lastWrite_mapValues.mpr ⟨body, hbody, rfl⟩
  refine Dict.lastWrite_flatMap.mpr ⟨before, file, after, hsources, hpath, fun later hlater => ?_⟩
  rw [List.map_map]
  change name ∉ (segments (lines later.2)).map Prod.fst
  rw [names_segments]
  exact hafter later hlater

theorem mem_calls_of_definedName? {line : String} (h : definedName? line = some name)
    {stoplist : List String} (hname : name ∉ stoplist) (others : List String) :
    name ∈ calls stoplist (line :: others) := by
  have hline : name ∈ calls stoplist [line] := by
    rw [mem_calls_iff]
    exact ⟨by simpa [unlines] using (isDefinition_of_definedName? h).callsIn, hname⟩
  exact calls_append_subset stoplist [line] others (List.mem_append_left _ hline)

theorem mem_calls_of_lastWrite {body : List String}
    (h : Dict.LastWrite (allSegments sources) name body) {stoplist : List String}
    (hname : name ∉ stoplist) : name ∈ calls stoplist body := by
  obtain ⟨file, -, before, after, hsegments, -⟩ := exists_lastFile h
  have hmem : (name, body) ∈ segments (lines file.2) := by simp [hsegments]
  obtain ⟨line, others, rfl, hline, -⟩ := exists_lines_of_mem_segments hmem
  exact mem_calls_of_definedName? hline hname others

section Extract

variable {x : Extractor} {found : Extraction}

theorem names_bodies (h : x.extract sources = .ok found) :
    found.bodies.names = (allNames sources).eraseDups := by
  rw [(extract_eq h).1, Dict.names_gather, names_allSegments]

theorem names_definedIn (h : x.extract sources = .ok found) :
    found.definedIn.names = (allNames sources).eraseDups := by
  rw [(extract_eq h).2, Dict.names_gather, names_allFiles, names_allSegments]

theorem names_edges (h : x.extract sources = .ok found) :
    (CallGraph.ofExtraction x found).edges.names = (allNames sources).eraseDups := by
  rw [CallGraph.ofExtraction, Dict.names_mapValues, names_bodies h]

theorem fetch_edges (x : Extractor) (found : Extraction) (name : String) :
    (CallGraph.ofExtraction x found).edges.fetch name =
      (found.bodies.fetch name).map (calls x.stoplist) :=
  Dict.fetch_mapValues _ _ _

theorem exists_last_definition (h : x.extract sources = .ok found)
    (hname : name ∈ allNames sources) : ∃ file body, LastFile sources name file ∧
      Dict.LastWrite (segments (lines file.2)) name body ∧
      found.bodies.fetch name = some body ∧ found.definedIn.fetch name = some file.1 := by
  obtain ⟨hbodies, hfiles⟩ := extract_eq h
  rw [← names_allSegments] at hname
  obtain ⟨body, hbody⟩ := Dict.exists_lastWrite_iff.mpr hname
  obtain ⟨file, hfile, hlast⟩ := exists_lastFile hbody
  refine ⟨file, body, hfile, hlast, ?_, ?_⟩
  · rw [hbodies, Dict.fetch_gather_eq_some_iff]
    exact hbody
  · rw [hfiles, Dict.fetch_gather_eq_some_iff]
    exact hfile.lastWrite

theorem mem_names_edges_of_entrypoint (h : x.extract sources = .ok found)
    (hname : name ∈ found.entrypoints) :
    name ∈ (CallGraph.ofExtraction x found).edges.names := by
  obtain ⟨file, hfile, names, hnames, hmem⟩ := (mem_entrypoints_extract h).mp hname
  have hdefined := mem_names_of_mem_entrypoints hnames hmem
  rw [names_segments] at hdefined
  rw [names_edges h, List.mem_eraseDups, allNames, List.mem_flatMap]
  exact ⟨file, hfile, hdefined⟩

theorem mem_own_edges (h : x.extract sources = .ok found) {callees : List String}
    (hfetch : (CallGraph.ofExtraction x found).edges.fetch name = some callees)
    (hname : name ∉ x.stoplist) : name ∈ callees := by
  rw [fetch_edges, (extract_eq h).1] at hfetch
  obtain ⟨body, hbody, rfl⟩ := Option.map_eq_some_iff.mp hfetch
  exact mem_calls_of_lastWrite (Dict.fetch_gather_eq_some_iff.mp hbody) hname

end Extract

theorem extract_exact (x : Extractor) (sources : Dict String) :
    (∀ lookahead, x.lookahead = .int lookahead → ∃ found, x.extract sources = .ok found) ∧
    ∀ found, x.extract sources = .ok found →
      Extracts x.stoplist sources found (CallGraph.ofExtraction x found) := by
  constructor
  · intro lookahead hx
    obtain ⟨value, stoplist⟩ := x
    obtain rfl : value = .int lookahead := hx
    exact exists_extract_eq_ok lookahead stoplist sources
  · intro found h
    refine ⟨names_bodies h, ⟨names_definedIn h, rfl⟩, names_edges h, fun name hname => ?_,
      fun name => mem_names_edges_of_entrypoint h, fun name callees => mem_own_edges h⟩
    obtain ⟨file, body, hfile, hlast, hbody, hpath⟩ := exists_last_definition h hname
    refine ⟨file, body, hfile, hlast, hbody, hpath, ?_⟩
    rw [fetch_edges, hbody]
    rfl

/-- The second file defines both functions again, one of them twice. -/
def redefiningSources : Dict String := [
  ("a.py", "@app.get('/')\ndef handler():\n  helper()\ndef helper():\n  pass"),
  ("b.py", "def helper():\n  one()\nasync def handler (x):\n  run(x)\n\tdef helper():\n  two()")]

theorem extract_exact_redefined : ∃ found, ({} : Extractor).extract redefiningSources = .ok found ∧
    found.bodies.names = ["handler", "helper"] ∧
    (CallGraph.ofExtraction {} found).definedIn.fetch "handler" = some "b.py" ∧
    (CallGraph.ofExtraction {} found).edges.fetch "helper" = some ["helper", "two"] ∧
    "handler" ∈ found.entrypoints ∧
    "handler" ∈ (CallGraph.ofExtraction {} found).edges.names ∧
    ∃ callees, (CallGraph.ofExtraction {} found).edges.fetch "handler" = some callees ∧
      "handler" ∈ callees := by
  obtain ⟨hreturns, hexact⟩ := extract_exact {} redefiningSources
  obtain ⟨found, hfound⟩ := hreturns 5 rfl
  have hextracts := hexact found hfound
  have hread : (({} : Extractor).extract redefiningSources).map (fun found =>
      ((CallGraph.ofExtraction {} found).definedIn.fetch "handler",
        (CallGraph.ofExtraction {} found).edges.fetch "helper", found.entrypoints)) =
      .ok (some "b.py", some ["helper", "two"], ["handler"]) := by decide +kernel
  rw [hfound] at hread
  obtain ⟨hfile, hcalls, hentry⟩ : _ ∧ _ ∧ _ := by simpa using Except.ok.inj hread
  have hmem : "handler" ∈ found.entrypoints := by simp [hentry]
  obtain ⟨file, body, -, -, -, -, hedges⟩ := hextracts.last "handler" (by decide +kernel)
  refine ⟨found, hfound, hextracts.bodies.trans (by decide +kernel), hfile, hcalls, hmem,
    hextracts.entrypoints _ hmem, _, hedges, hextracts.own _ _ hedges (by decide)⟩

end DiffReach.Source
