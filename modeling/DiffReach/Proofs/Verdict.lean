import DiffReach.Verdict
import DiffReach.Proofs.CallGraph.Chain
import DiffReach.Proofs.Limits
import DiffReach.Proofs.Session
import DiffReach.Proofs.Source.Extraction

namespace DiffReach

open CallGraph Source

namespace Evidence

variable {e : Evidence} {limits : Limits} {f : Finding}

/-- The text of the last source that has the path of a finding, up to normalisation. -/
def IsTextOf (e : Evidence) (f : Finding) (text : String) : Prop :=
  Dict.LastWrite (e.sources.map fun source => (Path.normalize source.1, source.2))
    (Path.normalize f.filePath) text

def Lacks (e : Evidence) (f : Finding) : Prop :=
  ∀ source ∈ e.sources, Path.normalize source.1 ≠ Path.normalize f.filePath

theorem fetch_texts_eq_some_iff {text : String} :
    e.texts.fetch (Path.normalize f.filePath) = some text ↔ e.IsTextOf f text :=
  Dict.fetch_gather_eq_some_iff

theorem fetch_texts_eq_none_iff :
    e.texts.fetch (Path.normalize f.filePath) = none ↔ e.Lacks f := by
  rw [texts, Dict.fetch_eq_none_iff, Dict.mem_names_gather]
  simp [Lacks]

theorem IsTextOf.not_lacks {text : String} (h : e.IsTextOf f text) : ¬ e.Lacks f := by
  intro hlacks
  rw [← fetch_texts_eq_some_iff, fetch_texts_eq_none_iff.mpr hlacks] at h
  exact absurd h (by simp)

theorem IsTextOf.unique {text other : String} (h : e.IsTextOf f text) (ho : e.IsTextOf f other) :
    text = other := by
  rw [← fetch_texts_eq_some_iff] at h ho
  exact Option.some.inj (h.symm.trans ho)

structure Justifies (e : Evidence) (limits : Limits) (f : Finding) (v : Verdict) : Prop where
  not_fetched : v = .notFetched ↔ e.Lacks f
  no_function : v = .noFunction ↔ ∃ text, e.IsTextOf f text ∧ Outside text f.lineNumber
  unknown : v.toClass = .unknown ↔
    e.Lacks f ∨ ∃ text, e.IsTextOf f text ∧ Outside text f.lineNumber
  bare : v.toClass = .unknown → v.evidence = .null ∧ v.function? = none
  located : ∀ text function, e.IsTextOf f text → Encloses text f.lineNumber function →
    function ∈ e.graph.edges.names ∧ function ∈ e.graph.definedIn.names ∧
      v.function? = some function ∧
      (v.toClass = .verified ↔ e.graph.Reaches e.entrypoints function) ∧
      (v.toClass = .refuted ↔ ¬ e.graph.Reaches e.entrypoints function)
  verified : ∀ function chain, v = .reached function chain →
    e.graph.IsCertificate e.entrypoints (limits.count .maxChainDepth) function chain
  refuted : ∀ function shown, v = .unreached function shown →
    ∃ starts : List String, starts.Pairwise (· < ·) ∧
      (∀ name, name ∈ starts ↔ name ∈ e.entrypoints) ∧
      shown = starts.take (limits.count .maxEvidenceEntrypoints)

structure Extracted (e : Evidence) : Prop where
  defined : ∀ name ∈ (allSegments e.sources).map Prod.fst,
    name ∈ e.graph.edges.names ∧ name ∈ e.graph.definedIn.names
  named : ∀ caller callee, e.graph.Calls caller callee → caller ≠ ""

def ofScan (x : Extractor) (found : Extraction) (entrypoints : List String)
    (sources : Dict String) : Evidence :=
  ⟨.ofExtraction x found, entrypoints, sources⟩

theorem extracted_ofScan {x : Extractor} {found : Extraction} {sources : Dict String}
    (h : x.extract sources = .ok found) (entrypoints : List String) :
    Extracted (ofScan x found entrypoints sources) where
  defined _ hname := ⟨(mem_names_edges_iff (extract_eq h).1).mpr hname,
    (mem_names_definedIn_iff (extract_eq h).2).mpr hname⟩
  named _ _ hc := ne_empty_of_calls (extract_eq h).1 hc

theorem IsTextOf.mem_allSegments {text name : String} {line : Int} (h : e.IsTextOf f text)
    (hin : Encloses text line name) : name ∈ (allSegments e.sources).map Prod.fst := by
  obtain ⟨before, after, heq, _⟩ := h
  have hmem : (Path.normalize f.filePath, text) ∈
      e.sources.map fun source => (Path.normalize source.1, source.2) := by simp [heq]
  obtain ⟨source, hsource, htext⟩ := List.mem_map.mp hmem
  obtain ⟨_, rfl⟩ := Prod.mk.inj htext
  rw [allSegments, List.map_flatMap, List.mem_flatMap]
  exact ⟨source, hsource, hin.mem_names⟩

theorem ne_empty_of_encloses {text name : String} {line : Int} (h : Encloses text line name) :
    name ≠ "" :=
  ne_empty_of_mem_segments h.mem_names

theorem unknown_iff (v : Verdict) : v.toClass = .unknown ↔ v = .notFetched ∨ v = .noFunction := by
  cases v <;> simp [Verdict.toClass]

theorem bare_of_unknown {v : Verdict} (h : v.toClass = .unknown) :
    v.evidence = .null ∧ v.function? = none := by
  rcases (unknown_iff v).mp h with rfl | rfl <;> exact ⟨rfl, rfl⟩

theorem justifies_notFetched (h : e.Lacks f) : e.Justifies limits f .notFetched where
  not_fetched := by simp [h]
  no_function := by
    refine ⟨fun heq => absurd heq (by simp), ?_⟩
    rintro ⟨text, ht, _⟩
    exact absurd h ht.not_lacks
  unknown := by simp [Verdict.toClass, h]
  bare := bare_of_unknown
  located _ _ ht := absurd h ht.not_lacks
  verified := by simp
  refuted := by simp

theorem justifies_noFunction {text : String} (ht : e.IsTextOf f text)
    (hout : Outside text f.lineNumber) : e.Justifies limits f .noFunction where
  not_fetched := by simp [ht.not_lacks]
  no_function := by simpa using ⟨text, ht, hout⟩
  unknown := by simpa [Verdict.toClass] using Or.inr ⟨text, ht, hout⟩
  bare := bare_of_unknown
  located other function hother hin := by
    obtain rfl := hother.unique ht
    exact absurd hout hin.not_outside
  verified := by simp
  refuted := by simp

theorem justifies_of_function (hx : e.Extracted) {text function : String} {v : Verdict}
    (ht : e.IsTextOf f text) (hin : Encloses text f.lineNumber function)
    (hfunction : v.function? = some function)
    (hclass : (v.toClass = .verified ↔ e.graph.Reaches e.entrypoints function) ∧
      (v.toClass = .refuted ↔ ¬ e.graph.Reaches e.entrypoints function))
    (hverified : ∀ function chain, v = .reached function chain →
      e.graph.IsCertificate e.entrypoints (limits.count .maxChainDepth) function chain)
    (hrefuted : ∀ function shown, v = .unreached function shown →
      shown = (Ascending.ofList e.entrypoints).take (limits.count .maxEvidenceEntrypoints)) :
    e.Justifies limits f v := by
  have hfetched : v ≠ .notFetched := by
    rintro rfl
    simp [Verdict.function?] at hfunction
  have hsome : v ≠ .noFunction := by
    rintro rfl
    simp [Verdict.function?] at hfunction
  have hinside : ¬ ∃ text, e.IsTextOf f text ∧ Outside text f.lineNumber := by
    rintro ⟨other, hother, hout⟩
    obtain rfl := hother.unique ht
    exact hin.not_outside hout
  refine ⟨by simp [hfetched, ht.not_lacks], by simp only [hsome, hinside], ?_, bare_of_unknown, ?_,
    hverified, ?_⟩
  · rw [unknown_iff]
    simp only [hfetched, hsome, ht.not_lacks, hinside]
  · intro other name hother hname
    obtain rfl := hother.unique ht
    obtain rfl := hname.unique hin
    obtain ⟨hedges, hfiles⟩ := hx.defined name (hother.mem_allSegments hname)
    exact ⟨hedges, hfiles, hfunction, hclass⟩
  · intro name shown hv
    exact ⟨_, Ascending.pairwise_ofList _, fun _ => Ascending.mem_ofList, hrefuted name shown hv⟩

theorem justifies_reached (hx : e.Extracted) (hl : limits.Positive) {text function : String}
    (ht : e.IsTextOf f text) (hin : Encloses text f.lineNumber function)
    (hr : e.parents.holds function = true) :
    e.Justifies limits f (.reached function
      (e.parents.chain e.graph.definedIn (limits.count .maxChainDepth) function)) := by
  have hs := stage_reach e.graph e.entrypoints
  have hmem : function ∈ Dict.names e.parents := Dict.holds_iff.mp hr
  have hreaches : e.graph.Reaches e.entrypoints function := hs.reaches hmem
  refine justifies_of_function hx ht hin rfl (by simp [Verdict.toClass, hreaches]) ?_ (by simp)
  rintro name chain hv
  obtain ⟨rfl, rfl⟩ := Verdict.reached.inj hv
  exact hs.isCertificate_chain hx.named (ne_empty_of_encloses hin) hmem
    (hl.count_pos _ (by decide))

theorem justifies_unreached (hx : e.Extracted) {text function : String}
    (ht : e.IsTextOf f text) (hin : Encloses text f.lineNumber function)
    (hr : ¬ e.parents.holds function = true) :
    e.Justifies limits f (.unreached function
      ((Ascending.ofList e.entrypoints).take (limits.count .maxEvidenceEntrypoints))) := by
  have hreaches : ¬ e.graph.Reaches e.entrypoints function := by
    rwa [← mem_names_reach, ← Dict.holds_iff]
  refine justifies_of_function hx ht hin rfl (by simp [Verdict.toClass, hreaches]) (by simp) ?_
  rintro name shown hv
  exact (Verdict.unreached.inj hv).2.symm

theorem chainWithin_eq (hl : limits.Positive) {function : String} (hf : function ≠ "") :
    e.parents.chainWithin e.graph.definedIn limits.maxChainDepth function =
      .ok (e.parents.chain e.graph.definedIn (limits.count .maxChainDepth) function) := by
  have hlimit : limits.maxChainDepth = .int (limits.count .maxChainDepth) :=
    hl.get_eq .maxChainDepth (by decide)
  rw [Parents.chainWithin, if_neg hf, hlimit, Value.countBelow_natCast]
  rfl

theorem exists_chainWithin (hl : limits.Whole) (e : Evidence) (function : String) :
    ∃ chain, e.parents.chainWithin e.graph.definedIn limits.maxChainDepth function = .ok chain := by
  obtain ⟨n, hn⟩ := hl .maxChainDepth (by decide)
  rw [Parents.chainWithin]
  split
  · exact ⟨[], rfl⟩
  · rw [show limits.maxChainDepth = .int n from hn]
    exact ⟨_, rfl⟩

theorem exists_judgeWith (hl : limits.Whole) (e : Evidence) (shown : List String) (f : Finding) :
    ∃ v, e.judgeWith limits.maxChainDepth e.parents e.texts shown f = .ok v := by
  rw [judgeWith]
  split
  · exact ⟨_, rfl⟩
  · split
    · exact ⟨_, rfl⟩
    · rename_i function _
      obtain ⟨chain, hchain⟩ := exists_chainWithin hl e function
      rw [hchain]
      split <;> exact ⟨_, rfl⟩

theorem exists_justified_verdict (hx : e.Extracted) (hl : limits.Positive) (f : Finding) :
    ∃ v, e.judgeWith limits.maxChainDepth e.parents e.texts
        ((Ascending.ofList e.entrypoints).take (limits.count .maxEvidenceEntrypoints)) f = .ok v ∧
      e.Justifies limits f v := by
  cases htext : e.texts.fetch (Path.normalize f.filePath) with
  | none =>
    refine ⟨.notFetched, ?_, justifies_notFetched (fetch_texts_eq_none_iff.mp htext)⟩
    simp only [judgeWith, htext]
  | some text =>
    have ht := fetch_texts_eq_some_iff.mp htext
    cases hfunction : containingFunction text f.lineNumber with
    | none =>
      refine ⟨.noFunction, ?_,
        justifies_noFunction ht (containingFunction_eq_none_iff.mp hfunction)⟩
      simp only [judgeWith, htext, hfunction]
    | some function =>
      have hin := containingFunction_eq_some_iff.mp hfunction
      by_cases hr : e.parents.holds function = true
      · refine ⟨_, ?_, justifies_reached hx hl ht hin hr⟩
        simp only [judgeWith, htext, hfunction, hr, if_true,
          chainWithin_eq hl (ne_empty_of_encloses hin)]
        rfl
      · refine ⟨_, ?_, justifies_unreached hx ht hin hr⟩
        simp only [judgeWith, htext, hfunction, hr]
        rfl

theorem judgeEach_eq {maxDepth : Value} {parents : Parents} {texts : Dict String}
    {shown : List String} {judge : Finding → Verdict}
    (h : ∀ f, e.judgeWith maxDepth parents texts shown f = .ok (judge f)) (fs : List Finding) :
    e.judgeEach maxDepth parents texts shown fs = .ok (fs.map fun f => (f, judge f)) := by
  induction fs with
  | nil => rfl
  | cons f fs ih =>
    rw [judgeEach, h, ih]
    rfl

theorem run_firstFindings {n : Int} (hlimit : limits.maxFindings = .int n) (fs : List Finding)
    (network : Host.Network) (journal : Journal) :
    ∃ later, (firstFindings limits fs).run network journal = (.ok (capped n fs), later) := by
  rw [firstFindings, hlimit, Value.isExceededBy_int, Value.cut_int]
  rw [Session.run_bind_of_ok (Session.run_settle_ok _ _ _)]
  by_cases hover : n < fs.length
  · rw [decide_eq_true hover, if_pos rfl, Session.run_bind_of_ok (Session.run_report _ _ _)]
    exact ⟨_, rfl⟩
  · rw [decide_eq_false hover, capped_of_length_le (by omega)]
    exact ⟨journal, rfl⟩

def Yields (e : Evidence) (limits : Limits) (judge : Finding → Verdict) : Prop :=
  ∃ n : Int, limits.maxFindings = .int n ∧ ∀ findings network journal,
    ((e.verify limits findings).run network journal).1 =
      .ok ((capped n findings).map fun f => (f, judge f))

theorem run_verify_of_judgeWith {n m : Int} (hfindings : limits.maxFindings = .int n)
    (hshown : limits.maxEvidenceEntrypoints = .int m) {judge : Finding → Verdict}
    (h : ∀ f, e.judgeWith limits.maxChainDepth e.parents e.texts
      (capped m (Ascending.ofList e.entrypoints)) f = .ok (judge f)) (fs : List Finding)
    (network : Host.Network) (journal : Journal) :
    ((e.verify limits fs).run network journal).1 =
      .ok ((capped n fs).map fun f => (f, judge f)) := by
  obtain ⟨later, hfirst⟩ := run_firstFindings hfindings fs network journal
  rw [verify, hshown, Value.cut_int, Session.run_bind_of_ok (Session.run_settle_ok _ _ _),
    Session.run_bind_of_ok hfirst, judgeEach_eq h]
  rfl

theorem exists_yields (hl : limits.Whole) (e : Evidence) : ∃ judge, e.Yields limits judge := by
  obtain ⟨n, hn⟩ := hl .maxFindings (by decide)
  obtain ⟨m, hm⟩ := hl .maxEvidenceEntrypoints (by decide)
  choose judge hjudge using exists_judgeWith hl e (capped m (Ascending.ofList e.entrypoints))
  exact ⟨judge, n, hn, run_verify_of_judgeWith hn hm hjudge⟩

theorem run_verify (hl : limits.Positive) {judge : Finding → Verdict}
    (h : ∀ f, e.judgeWith limits.maxChainDepth e.parents e.texts
      ((Ascending.ofList e.entrypoints).take (limits.count .maxEvidenceEntrypoints)) f
        = .ok (judge f)) (fs : List Finding) (network : Host.Network) (journal : Journal) :
    ((e.verify limits fs).run network journal).1 =
      .ok ((fs.take (limits.count .maxFindings)).map fun f => (f, judge f)) := by
  have hfindings : limits.maxFindings = .int (limits.count .maxFindings) :=
    hl.get_eq .maxFindings (by decide)
  have hshown : limits.maxEvidenceEntrypoints = .int (limits.count .maxEvidenceEntrypoints) :=
    hl.get_eq .maxEvidenceEntrypoints (by decide)
  simp only [← capped_natCast] at h ⊢
  exact run_verify_of_judgeWith hfindings hshown h fs network journal

theorem exists_judge (hx : e.Extracted) (hl : limits.Positive) :
    ∃ judge : Finding → Verdict,
      (∀ findings network journal, ((e.verify limits findings).run network journal).1 =
        .ok ((findings.take (limits.count .maxFindings)).map fun f => (f, judge f))) ∧
      ∀ f, e.Justifies limits f (judge f) := by
  choose judge hjudge hjust using exists_justified_verdict hx hl
  exact ⟨judge, run_verify hl hjudge, hjust⟩

end Evidence

theorem verify_justified (lookahead : Int) (stoplist : List String) (sources : Dict String)
    (entrypoints : List String) (limits : Limits) (hl : limits.Positive) :
    ∃ found, Extractor.extract ⟨.int lookahead, stoplist⟩ sources = .ok found ∧
      ∃ judge : Finding → Verdict,
        (∀ findings network journal,
          (((Evidence.ofScan ⟨.int lookahead, stoplist⟩ found entrypoints sources).verify limits
            findings).run network journal).1 =
              .ok ((findings.take (limits.count .maxFindings)).map fun f => (f, judge f))) ∧
        ∀ f, (Evidence.ofScan ⟨.int lookahead, stoplist⟩ found entrypoints sources).Justifies
          limits f (judge f) := by
  obtain ⟨found, hfound⟩ := exists_extract_eq_ok lookahead stoplist sources
  exact ⟨found, hfound, Evidence.exists_judge (Evidence.extracted_ofScan hfound entrypoints) hl⟩

def relayedSources : Dict String :=
  [("app.py", "@app.get(\"/\")\ndef handler():\n    helper()\ndef helper():\n    eval(x)\n"),
    ("./tools.py", "import os\ndef orphan():\n    eval(x)\n")]

theorem verify_justified_relayed :
    ({} : Limits).Positive ∧
      ∃ found, Extractor.extract ⟨.int 5, keywords⟩ relayedSources = .ok found ∧
        ∃ judge : Finding → Verdict,
          (∀ findings network journal,
            (((Evidence.ofScan ⟨.int 5, keywords⟩ found ["handler"] relayedSources).verify {}
              findings).run network journal).1 =
                .ok ((findings.take (({} : Limits).count .maxFindings)).map fun f =>
                  (f, judge f))) ∧
          ∀ f, (Evidence.ofScan ⟨.int 5, keywords⟩ found ["handler"] relayedSources).Justifies
            {} f (judge f) :=
  ⟨Limits.positive_default,
    verify_justified 5 keywords relayedSources ["handler"] {} Limits.positive_default⟩

end DiffReach
