import DiffReach.Proofs.Source.Call
import DiffReach.Proofs.Verdict
import Mathlib.Logic.Relation

namespace DiffReach

open Source

def Source.BodyCalls (stoplist body : List String) (callee : String) : Prop :=
  CallsIn (Text.unlines body).toList callee.toList ∧ callee ∉ stoplist

def Source.LastDefinitionCalls (stoplist : List String) (sources : Dict String)
    (caller callee : String) : Prop :=
  ∃ body, Dict.LastWrite (allSegments sources) caller body ∧ BodyCalls stoplist body callee

def Source.SomeDefinitionCalls (stoplist : List String) (sources : Dict String)
    (caller callee : String) : Prop :=
  ∃ body, (caller, body) ∈ allSegments sources ∧ BodyCalls stoplist body callee

namespace CallGraph

variable {x : Extractor} {found : Extraction} {sources : Dict String}

theorem calls_iff_lastDefinitionCalls (h : x.extract sources = .ok found)
    {caller callee : String} : (ofExtraction x found).Calls caller callee ↔
      LastDefinitionCalls x.stoplist sources caller callee := by
  rw [calls_ofExtraction_iff (extract_eq h).1]
  simp only [LastDefinitionCalls, BodyCalls, mem_calls_iff]

theorem reaches_of_reflTransGen (h : x.extract sources = .ok found) {entrypoints : List String}
    {entry name : String} (hentry : entry ∈ entrypoints)
    (hpath : Relation.ReflTransGen (LastDefinitionCalls x.stoplist sources) entry name) :
    (ofExtraction x found).Reaches entrypoints name := by
  induction hpath with
  | refl => exact reaches_entry hentry
  | tail _ hcall ih => exact ih.snoc ((calls_iff_lastDefinitionCalls h).mpr hcall)

end CallGraph

namespace Evidence

variable {e : Evidence} {limits : Limits} {f : Finding} {v : Verdict}

theorem unreached_of_judgeWith {maxDepth : Value} {shown : List String}
    (h : e.judgeWith maxDepth e.parents e.texts shown f = .ok v) (hv : v.toClass = .refuted) :
    ∃ text function, e.IsTextOf f text ∧ Encloses text f.lineNumber function ∧
      v.function? = some function ∧ ¬ e.graph.Reaches e.entrypoints function := by
  rw [judgeWith] at h
  split at h
  · obtain rfl := Except.ok.inj h
    simp [Verdict.toClass] at hv
  · rename_i text htext
    split at h
    · obtain rfl := Except.ok.inj h
      simp [Verdict.toClass] at hv
    · rename_i function hfunction
      split at h
      · cases hchain : e.parents.chainWithin e.graph.definedIn maxDepth function with
        | error fault =>
          rw [hchain] at h
          cases h
        | ok chain =>
          rw [hchain] at h
          obtain rfl := Except.ok.inj h
          simp [Verdict.toClass] at hv
      · rename_i hr
        obtain rfl := Except.ok.inj h
        refine ⟨text, function, fetch_texts_eq_some_iff.mp htext,
          containingFunction_eq_some_iff.mp hfunction, rfl, ?_⟩
        rwa [← CallGraph.mem_names_reach, ← Dict.holds_iff]

theorem judgeWith_of_mem_judgeEach {maxDepth : Value} {parents : CallGraph.Parents}
    {texts : Dict String} {shown : List String} {fs : List Finding}
    {verdicts : List (Finding × Verdict)}
    (h : e.judgeEach maxDepth parents texts shown fs = .ok verdicts) (hmem : (f, v) ∈ verdicts) :
    e.judgeWith maxDepth parents texts shown f = .ok v := by
  induction fs generalizing verdicts with
  | nil =>
    obtain rfl := Except.ok.inj h
    simp at hmem
  | cons g fs ih =>
    rw [judgeEach] at h
    cases hg : e.judgeWith maxDepth parents texts shown g with
    | error fault =>
      rw [hg] at h
      cases h
    | ok first =>
      cases hrest : e.judgeEach maxDepth parents texts shown fs with
      | error fault =>
        rw [hg, hrest] at h
        cases h
      | ok rest =>
        rw [hg, hrest] at h
        obtain rfl := Except.ok.inj h
        rcases List.mem_cons.mp hmem with heq | hmem
        · obtain ⟨rfl, rfl⟩ := Prod.mk.inj heq
          exact hg
        · exact ih hrest hmem

theorem unreached_of_run_verify {findings : List Finding} {network : Host.Network}
    {journal : Journal} {verdicts : List (Finding × Verdict)}
    (h : ((e.verify limits findings).run network journal).1 = .ok verdicts)
    (hmem : (f, v) ∈ verdicts) (hv : v.toClass = .refuted) :
    ∃ text function, e.IsTextOf f text ∧ Encloses text f.lineNumber function ∧
      v.function? = some function ∧ ¬ e.graph.Reaches e.entrypoints function := by
  obtain ⟨shown, later, _, hrest⟩ := Session.exists_of_run_bind h
  obtain ⟨chosen, last, _, hjudged⟩ := Session.exists_of_run_bind hrest
  have heach := Session.eq_ok_of_run_settle hjudged
  exact unreached_of_judgeWith (judgeWith_of_mem_judgeEach heach hmem) hv

end Evidence

theorem refuted_no_text_path {x : Extractor} {sources : Dict String} {found : Extraction}
    (hfound : x.extract sources = .ok found) {limits : Limits} {findings : List Finding}
    {network : Host.Network} {journal : Journal} {verdicts : List (Finding × Verdict)}
    (hrun : (((Evidence.ofScan x found found.entrypoints sources).verify limits findings).run
      network journal).1 = .ok verdicts)
    {f : Finding} {v : Verdict} (hmem : (f, v) ∈ verdicts) (hv : v.toClass = .refuted) :
    ∃ text function, (Evidence.ofScan x found found.entrypoints sources).IsTextOf f text ∧
      Encloses text f.lineNumber function ∧ v.function? = some function ∧
      ¬ ∃ entry ∈ found.entrypoints,
        Relation.ReflTransGen (LastDefinitionCalls x.stoplist sources) entry function := by
  obtain ⟨text, function, htext, hin, hfunction, hreach⟩ :=
    Evidence.unreached_of_run_verify hrun hmem hv
  refine ⟨text, function, htext, hin, hfunction, ?_⟩
  rintro ⟨entry, hentry, hpath⟩
  exact hreach (CallGraph.reaches_of_reflTransGen hfound hentry hpath)

def overwritingText : String :=
  "def handler():\n    two()\ndef handler():\n    pass\n" ++
    "def one():\n    eval(x)\ndef two():\n    eval(x)\n"

def overwrittenSources : Dict String :=
  [("a.py", "@app.get(\"/\")\ndef handler():\n    one()\n"), ("b.py", overwritingText)]

def overwrittenFinding (line : Int) : Finding :=
  ⟨"A", "b.py", line, "high", "eval", "security", .null, none, false, .null, "A::b.py"⟩

theorem fetch_overwritingText :
    (Dict.gather (overwrittenSources.map fun source => (Path.normalize source.1, source.2))).fetch
      (Path.normalize "b.py") = some overwritingText := by
  decide +kernel

theorem overwritten_refuted : ∃ found v w,
    Extractor.extract {} overwrittenSources = .ok found ∧ found.entrypoints = ["handler"] ∧
      (∀ network journal, (((Evidence.ofScan {} found found.entrypoints overwrittenSources).verify
        {} [overwrittenFinding 6, overwrittenFinding 8]).run network journal).1 =
          .ok [(overwrittenFinding 6, v), (overwrittenFinding 8, w)]) ∧
      (v.toClass = .refuted ∧ v.function? = some "one") ∧
      w.toClass = .refuted ∧ w.function? = some "two" := by
  have hscan : ∃ found, Extractor.extract {} overwrittenSources = .ok found ∧
      found.entrypoints = ["handler"] ∧
      (CallGraph.ofExtraction {} found).edges.fetch "handler" = some ["handler"] :=
    ⟨_, rfl, by decide +kernel, by decide +kernel⟩
  obtain ⟨found, hfound, hentry, hedge⟩ := hscan
  -- the last definition calls nothing but itself, so the search never leaves the handler
  have hclosed : (CallGraph.ofExtraction {} found).ClosedFrom found.entrypoints {"handler"} := by
    refine ⟨by simp [hentry], ?_⟩
    rintro caller rfl callee hcall
    simpa [CallGraph.Calls, hedge] using hcall
  obtain ⟨judge, hrun, hjust⟩ := Evidence.exists_judge
    (Evidence.extracted_ofScan hfound found.entrypoints) Limits.positive_default
  have hrefuted (line : Int) (name : String)
      (hname : containingFunction overwritingText line = some name) (hne : name ≠ "handler") :
      (judge (overwrittenFinding line)).toClass = .refuted ∧
        (judge (overwrittenFinding line)).function? = some name := by
    have htext : (Evidence.ofScan {} found found.entrypoints overwrittenSources).IsTextOf
        (overwrittenFinding line) overwritingText :=
      Evidence.fetch_texts_eq_some_iff.mp fetch_overwritingText
    obtain ⟨_, _, hfunction, _, hclass⟩ := (hjust (overwrittenFinding line)).located _ _ htext
      (containingFunction_eq_some_iff.mp hname)
    exact ⟨hclass.mpr fun hreach => hne (hclosed.mem_of_reaches hreach), hfunction⟩
  exact ⟨found, _, _, hfound, hentry, hrun [overwrittenFinding 6, overwrittenFinding 8],
    hrefuted 6 "one" (by decide +kernel) (by decide),
    hrefuted 8 "two" (by decide +kernel) (by decide)⟩

theorem refuted_no_text_path_overwritten : ∃ found v w,
    Extractor.extract {} overwrittenSources = .ok found ∧
      (∀ network journal, (((Evidence.ofScan {} found found.entrypoints overwrittenSources).verify
        {} [overwrittenFinding 6, overwrittenFinding 8]).run network journal).1 =
          .ok [(overwrittenFinding 6, v), (overwrittenFinding 8, w)]) ∧
      v.toClass = .refuted ∧ ∃ text function,
        (Evidence.ofScan {} found found.entrypoints overwrittenSources).IsTextOf
          (overwrittenFinding 6) text ∧
        Encloses text 6 function ∧ v.function? = some function ∧
        ¬ ∃ entry ∈ found.entrypoints, Relation.ReflTransGen
          (LastDefinitionCalls keywords overwrittenSources) entry function := by
  obtain ⟨found, v, w, hfound, _, hrun, ⟨hv, _⟩, _⟩ := overwritten_refuted
  refine ⟨found, v, w, hfound, hrun, hv, ?_⟩
  exact refuted_no_text_path hfound (hrun (fun _ _ => .breakdown .timeout "") ⟨[], []⟩) (by simp) hv

theorem handler_calls_one : SomeDefinitionCalls keywords overwrittenSources "handler" "one" := by
  refine ⟨["def handler():", "    one()", ""], by decide +kernel, ?_, by decide⟩
  rw [← mem_calledFrom_empty_iff]
  decide +kernel

theorem handler_calls_two : SomeDefinitionCalls keywords overwrittenSources "handler" "two" := by
  refine ⟨["def handler():", "    two()"], by decide +kernel, ?_, by decide⟩
  rw [← mem_calledFrom_empty_iff]
  decide +kernel

theorem refuted_despite_replaced_definition : ∃ found v w,
    Extractor.extract {} overwrittenSources = .ok found ∧
      (∀ network journal, (((Evidence.ofScan {} found found.entrypoints overwrittenSources).verify
        {} [overwrittenFinding 6, overwrittenFinding 8]).run network journal).1 =
          .ok [(overwrittenFinding 6, v), (overwrittenFinding 8, w)]) ∧
      (v.toClass = .refuted ∧ v.function? = some "one" ∧ ∃ entry ∈ found.entrypoints,
        Relation.ReflTransGen (SomeDefinitionCalls keywords overwrittenSources) entry "one") ∧
      w.toClass = .refuted ∧ w.function? = some "two" ∧ ∃ entry ∈ found.entrypoints,
        Relation.ReflTransGen (SomeDefinitionCalls keywords overwrittenSources) entry "two" := by
  obtain ⟨found, v, w, hfound, hentry, hrun, ⟨hv, hone⟩, hw, htwo⟩ := overwritten_refuted
  have hhandler : "handler" ∈ found.entrypoints := by simp [hentry]
  exact ⟨found, v, w, hfound, hrun, ⟨hv, hone, "handler", hhandler, .single handler_calls_one⟩,
    hw, htwo, "handler", hhandler, .single handler_calls_two⟩

end DiffReach
