import DiffReach.Proofs.CallGraph.Path
import DiffReach.Proofs.Source.Segment

namespace DiffReach.Source

def allSegments (sources : Dict String) : List (String × List String) :=
  sources.flatMap fun file => segments (Text.lines file.2)

def allFiles (sources : Dict String) : List (String × String) :=
  sources.flatMap fun file => (segments (Text.lines file.2)).map fun segment => (segment.1, file.1)

theorem names_allFiles (sources : Dict String) :
    (allFiles sources).map Prod.fst = (allSegments sources).map Prod.fst := by
  simp [allFiles, allSegments, List.map_flatMap, Function.comp_def]

theorem add_bodies (found : Extraction) (file : String × String) (names : List String) :
    (found.add file names).bodies = found.bodies.putAll (segments (Text.lines file.2)) := by
  rw [Extraction.add, functionBodies_eq]
  exact Dict.putAll_gather _ _

theorem add_definedIn (found : Extraction) (file : String × String) (names : List String) :
    (found.add file names).definedIn = found.definedIn.putAll
      ((segments (Text.lines file.2)).map fun segment => (segment.1, file.1)) := by
  have hmap := Dict.mapValues_gather (fun _ => file.1) (segments (Text.lines file.2))
  rw [Extraction.add, functionBodies_eq]
  change found.definedIn.putAll (Dict.mapValues (fun _ => file.1) _) = _
  rw [hmap, Dict.putAll_gather]
  rfl

theorem extractFrom_eq {x : Extractor} {found extraction : Extraction} {sources : Dict String}
    (h : x.extractFrom found sources = .ok extraction) :
    extraction.bodies = found.bodies.putAll (allSegments sources) ∧
      extraction.definedIn = found.definedIn.putAll (allFiles sources) := by
  induction sources generalizing found with
  | nil =>
    obtain rfl := Except.ok.inj h
    exact ⟨rfl, rfl⟩
  | cons file sources ih =>
    rw [Extractor.extractFrom] at h
    cases hnames : x.entrypoints file.2 with
    | error fault =>
      rw [hnames] at h
      cases h
    | ok names =>
      rw [hnames] at h
      obtain ⟨hbodies, hfiles⟩ := ih h
      rw [hbodies, hfiles, add_bodies, add_definedIn, ← Dict.putAll_append, ← Dict.putAll_append]
      exact ⟨rfl, rfl⟩

theorem extract_eq {x : Extractor} {found : Extraction} {sources : Dict String}
    (h : x.extract sources = .ok found) :
    found.bodies = Dict.gather (allSegments sources) ∧
      found.definedIn = Dict.gather (allFiles sources) :=
  extractFrom_eq h

theorem exists_extractFrom_eq_ok (lookahead : Int) (stoplist : List String) (found : Extraction)
    (sources : Dict String) :
    ∃ extraction, Extractor.extractFrom ⟨.int lookahead, stoplist⟩ found sources =
      .ok extraction := by
  induction sources generalizing found with
  | nil => exact ⟨found, rfl⟩
  | cons file sources ih => exact ih (found.add file (entrypoints lookahead file.2))

theorem exists_extract_eq_ok (lookahead : Int) (stoplist : List String) (sources : Dict String) :
    ∃ found, Extractor.extract ⟨.int lookahead, stoplist⟩ sources = .ok found :=
  exists_extractFrom_eq_ok lookahead stoplist .empty sources

end DiffReach.Source

namespace DiffReach.CallGraph

open Source

variable {x : Extractor} {found : Extraction} {sources : Dict String}

theorem calls_ofExtraction_iff (hb : found.bodies = Dict.gather (allSegments sources))
    {caller callee : String} : (ofExtraction x found).Calls caller callee ↔
      ∃ body, Dict.LastWrite (allSegments sources) caller body ∧
        callee ∈ Source.calls x.stoplist body := by
  have hfetch : (ofExtraction x found).edges.fetch caller =
      ((Dict.gather (allSegments sources)).fetch caller).map (Source.calls x.stoplist) := by
    rw [ofExtraction, Dict.fetch_mapValues, hb]
  simp only [Calls, hfetch, ← Dict.fetch_gather_eq_some_iff]
  cases (Dict.gather (allSegments sources)).fetch caller <;> simp

theorem mem_names_edges_iff (hb : found.bodies = Dict.gather (allSegments sources))
    {name : String} : name ∈ (ofExtraction x found).edges.names ↔
      name ∈ (allSegments sources).map Prod.fst := by
  rw [ofExtraction, Dict.names_mapValues, hb, Dict.mem_names_gather]

theorem mem_names_definedIn_iff (hf : found.definedIn = Dict.gather (allFiles sources))
    {name : String} : name ∈ (ofExtraction x found).definedIn.names ↔
      name ∈ (allSegments sources).map Prod.fst := by
  rw [ofExtraction, hf, Dict.mem_names_gather, names_allFiles]

theorem ne_empty_of_calls (hb : found.bodies = Dict.gather (allSegments sources))
    {caller callee : String} (h : (ofExtraction x found).Calls caller callee) : caller ≠ "" := by
  have hmem := (mem_names_edges_iff hb).mp (mem_names_of_calls h)
  rw [allSegments, List.map_flatMap, List.mem_flatMap] at hmem
  obtain ⟨file, _, hname⟩ := hmem
  exact ne_empty_of_mem_segments hname

end DiffReach.CallGraph
