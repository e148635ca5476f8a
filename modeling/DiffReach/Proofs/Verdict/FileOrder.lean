import DiffReach.Proofs.Source.Loss
import DiffReach.Proofs.Verdict

namespace DiffReach

open CallGraph Source

theorem Dict.fetch_perm {α : Type} {d other : Dict α} (hd : d.names.Nodup) (h : other.Perm d)
    (key : String) : other.fetch key = d.fetch key := by
  have hother : other.names.Nodup := (h.map Prod.fst).nodup_iff.mpr hd
  refine Option.ext fun value => ?_
  constructor
  · intro hv
    exact Dict.fetch_of_mem hd (h.mem_iff.mp (Dict.mem_of_fetch hv))
  · intro hv
    exact Dict.fetch_of_mem hother (h.mem_iff.mpr (Dict.mem_of_fetch hv))

namespace Source

structure Separate (sources : Dict String) : Prop where
  paths : (sources.map fun file => Path.normalize file.1).Nodup
  names : ∀ file ∈ sources, ∀ other ∈ sources, ∀ name ∈ definedNames file.2,
    name ∈ definedNames other.2 → file.1 = other.1

variable {sources reordered : Dict String}

theorem Separate.pairwise (hs : Separate sources) (name : String) :
    sources.Pairwise fun file other =>
      name ∉ definedNames file.2 ∨ name ∉ definedNames other.2 := by
  refine (List.pairwise_map.mp hs.paths).imp_of_mem fun hfile hother hne => ?_
  by_contra hboth
  obtain ⟨hname, hname'⟩ := not_or.mp hboth
  have hsame := hs.names _ hfile _ hother name (not_not.mp hname) (not_not.mp hname')
  exact hne (by rw [hsame])

theorem fetch_gather_perm {α : Type} {pieces : String × String → List (String × α)}
    (hpieces : ∀ file, (pieces file).map Prod.fst = definedNames file.2) (hs : Separate sources)
    (hperm : reordered.Perm sources) (name : String) :
    (Dict.gather (reordered.flatMap pieces)).fetch name =
      (Dict.gather (sources.flatMap pieces)).fetch name := by
  have hnone {file : String × String} (h : name ∉ definedNames file.2) :
      (pieces file).filter (fun piece => piece.1 = name) = [] :=
    filter_eq_nil_of_notMem (hpieces file ▸ h)
  rw [Dict.fetch_gather, Dict.fetch_gather, List.filter_flatMap, List.filter_flatMap,
    flatMap_perm hperm.symm ((hs.pairwise name).imp fun h => h.imp hnone hnone)]

variable {x : Extractor} {found other : Extraction}

theorem fetch_bodies_perm (hs : Separate sources) (hperm : reordered.Perm sources)
    (hfound : x.extract sources = .ok found) (hother : x.extract reordered = .ok other)
    (name : String) : other.bodies.fetch name = found.bodies.fetch name := by
  rw [(extract_eq hfound).1, (extract_eq hother).1]
  exact fetch_gather_perm (fun file => names_segments _) hs hperm name

theorem fetch_definedIn_perm (hs : Separate sources) (hperm : reordered.Perm sources)
    (hfound : x.extract sources = .ok found) (hother : x.extract reordered = .ok other)
    (name : String) : other.definedIn.fetch name = found.definedIn.fetch name := by
  rw [(extract_eq hfound).2, (extract_eq hother).2]
  refine fetch_gather_perm (fun file => ?_) hs hperm name
  rw [definedNames, ← names_segments, List.map_map]
  rfl

theorem mem_entrypoints_perm (hperm : reordered.Perm sources)
    (hfound : x.extract sources = .ok found) (hother : x.extract reordered = .ok other)
    (name : String) : name ∈ other.entrypoints ↔ name ∈ found.entrypoints := by
  rw [mem_entrypoints_extract hfound, mem_entrypoints_extract hother]
  exact exists_congr fun file => and_congr_left fun _ => hperm.mem_iff

theorem fetch_texts_perm (hs : Separate sources) (hperm : reordered.Perm sources) (path : String) :
    (Dict.gather (reordered.map fun file => (Path.normalize file.1, file.2))).fetch path =
      (Dict.gather (sources.map fun file => (Path.normalize file.1, file.2))).fetch path := by
  have hmap := hperm.map fun file => (Path.normalize file.1, file.2)
  have hpaths : ((sources.map fun file => (Path.normalize file.1, file.2)).map Prod.fst).Nodup := by
    simpa [Function.comp_def] using hs.paths
  rw [Dict.gather_of_nodup hpaths, Dict.gather_of_nodup ((hmap.map Prod.fst).nodup_iff.mpr hpaths)]
  exact Dict.fetch_perm hpaths hmap path

end Source

namespace Evidence

structure Alike (e other : Evidence) : Prop where
  calls : ∀ caller callee, other.graph.Calls caller callee ↔ e.graph.Calls caller callee
  entrypoints : ∀ name, name ∈ other.entrypoints ↔ name ∈ e.entrypoints
  definedIn : ∀ name, other.graph.definedIn.fetch name = e.graph.definedIn.fetch name
  texts : ∀ path, other.texts.fetch path = e.texts.fetch path

variable {e other : Evidence}

theorem Alike.judgeWith_eq (h : e.Alike other) (maxDepth : Value) (shown : List String)
    (f : Finding) : other.judgeWith maxDepth other.parents other.texts shown f =
      e.judgeWith maxDepth e.parents e.texts shown f := by
  -- The search gives the same tree, not only the same names, so chains come out the same.
  have hparents : other.parents = e.parents := reach_congr h.calls h.entrypoints
  have hchain (function : String) :
      e.parents.chainWithin other.graph.definedIn maxDepth function =
        e.parents.chainWithin e.graph.definedIn maxDepth function := by
    simp only [Parents.chainWithin, Parents.chain, h.definedIn]
  rw [judgeWith, judgeWith, h.texts, hparents]
  simp only [hchain]

theorem Alike.judgeEach_eq (h : e.Alike other) (maxDepth : Value) (shown : List String)
    (fs : List Finding) : other.judgeEach maxDepth other.parents other.texts shown fs =
      e.judgeEach maxDepth e.parents e.texts shown fs := by
  induction fs with
  | nil => rfl
  | cons f fs ih => rw [judgeEach, judgeEach, h.judgeWith_eq, ih]

theorem Alike.verify_eq (h : e.Alike other) (limits : Limits) (fs : List Finding) :
    other.verify limits fs = e.verify limits fs := by
  rw [verify, verify, Ascending.ofList_congr h.entrypoints]
  simp only [h.judgeEach_eq]

end Evidence

theorem verify_reordered (lookahead : Int) (stoplist : List String)
    {sources reordered : Dict String} (hs : Separate sources) (hperm : reordered.Perm sources) :
    let x : Extractor := ⟨.int lookahead, stoplist⟩
    ∃ found other, x.extract sources = .ok found ∧ x.extract reordered = .ok other ∧
      (∀ name, name ∈ other.entrypoints ↔ name ∈ found.entrypoints) ∧
      (∀ name, (CallGraph.ofExtraction x other).edges.fetch name =
        (CallGraph.ofExtraction x found).edges.fetch name) ∧
      (∀ name, (CallGraph.ofExtraction x other).definedIn.fetch name =
        (CallGraph.ofExtraction x found).definedIn.fetch name) ∧
      ∀ limits findings,
        (Evidence.ofScan x other other.entrypoints reordered).verify limits findings =
          (Evidence.ofScan x found found.entrypoints sources).verify limits findings ∧
        (limits.Whole → ∃ verdicts, ∀ network journal,
          (((Evidence.ofScan x other other.entrypoints reordered).verify limits findings).run
            network journal).1 = .ok verdicts) := by
  intro x
  obtain ⟨found, hfound⟩ := exists_extract_eq_ok lookahead stoplist sources
  obtain ⟨other, hother⟩ := exists_extract_eq_ok lookahead stoplist reordered
  have hentrypoints := mem_entrypoints_perm hperm hfound hother
  have hedges (name : String) : (CallGraph.ofExtraction x other).edges.fetch name =
      (CallGraph.ofExtraction x found).edges.fetch name := by
    rw [CallGraph.ofExtraction, CallGraph.ofExtraction, Dict.fetch_mapValues, Dict.fetch_mapValues,
      fetch_bodies_perm hs hperm hfound hother]
  have hfiles := fetch_definedIn_perm hs hperm hfound hother
  have halike : (Evidence.ofScan x found found.entrypoints sources).Alike
      (Evidence.ofScan x other other.entrypoints reordered) := by
    refine ⟨fun caller callee => ?_, hentrypoints, hfiles, fetch_texts_perm hs hperm⟩
    exact iff_of_eq (congrArg (fun callees => callee ∈ callees.getD []) (hedges caller))
  refine ⟨found, other, hfound, hother, hentrypoints, hedges, hfiles, fun limits findings => ?_⟩
  refine ⟨halike.verify_eq limits findings, fun hl => ?_⟩
  obtain ⟨judge, n, -, hrun⟩ :=
    Evidence.exists_yields hl (Evidence.ofScan x other other.entrypoints reordered)
  exact ⟨_, hrun findings⟩

def scatteredSources : Dict String :=
  [("a.py", "@app.get(\"/\")\ndef handler():\n    helper()\n"),
    ("b.py", "def helper():\n    eval(x)\n"), ("./b.py", "def orphan():\n    eval(x)\n")]

theorem verify_reordered_scattered :
    let x : Extractor := ⟨.int 5, keywords⟩
    Separate scatteredSources ∧ scatteredSources.reverse.Perm scatteredSources ∧
      ∃ found other, x.extract scatteredSources = .ok found ∧
        x.extract scatteredSources.reverse = .ok other ∧
        (∀ name, (CallGraph.ofExtraction x other).definedIn.fetch name =
          (CallGraph.ofExtraction x found).definedIn.fetch name) ∧
        ∀ findings,
          (Evidence.ofScan x other other.entrypoints scatteredSources.reverse).verify {} findings =
            (Evidence.ofScan x found found.entrypoints scatteredSources).verify {} findings := by
  intro x
  have hs : Separate scatteredSources := ⟨by decide +kernel, by decide +kernel⟩
  have hperm := List.reverse_perm scatteredSources
  obtain ⟨found, other, hfound, hother, -, -, hfiles, hverify⟩ :=
    verify_reordered 5 keywords hs hperm
  exact ⟨hs, hperm, found, other, hfound, hother, hfiles, fun findings => (hverify {} findings).1⟩

end DiffReach
