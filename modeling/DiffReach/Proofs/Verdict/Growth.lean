import DiffReach.Proofs.Source.Loss
import DiffReach.Proofs.Verdict

namespace DiffReach

open CallGraph Source

namespace CallGraph

structure Within (g : CallGraph) (starts : List String) (h : CallGraph) (others : List String) :
    Prop where
  calls : ∀ caller callee, g.Calls caller callee → h.Calls caller callee
  starts : ∀ name ∈ starts, name ∈ others

variable {g h : CallGraph} {starts others : List String}

theorem Within.path (hw : g.Within starts h others) {n : Nat} {first last : String}
    (hp : g.Path n first last) : h.Path n first last := by
  induction hp with
  | nil name => exact .nil name
  | snoc _ hc ih => exact ih.snoc (hw.calls _ _ hc)

theorem Within.reaches (hw : g.Within starts h others) {name : String}
    (hr : g.Reaches starts name) : h.Reaches others name := by
  obtain ⟨entry, hentry, n, hp⟩ := hr
  exact ⟨entry, hw.starts entry hentry, n, hw.path hp⟩

end CallGraph

namespace Source

theorem decorated?_take_of_le {k m : Nat} (hkm : k ≤ m) {ls : List String} {name : String}
    (h : decorated? (ls.take k) = some name) : decorated? (ls.take m) = some name := by
  induction ls generalizing k m with
  | nil => simpa using h
  | cons line rest ih =>
    cases k with
    | zero => simp [decorated?] at h
    | succ k =>
      obtain ⟨m, rfl⟩ : ∃ j, m = j + 1 := ⟨m - 1, by omega⟩
      rw [List.take_succ_cons, decorated?] at h ⊢
      cases hd : definedName? line with
      | some found =>
        rw [hd] at h
        exact h
      | none =>
        simp only [hd] at h ⊢
        split at h
        · rename_i hpassed
          rw [if_pos hpassed]
          exact ih (by omega) h
        · cases h

theorem entrypointsIn_sublist {k m : Int} (hkm : k ≤ m) (ls : List String) :
    (entrypointsIn k ls).Sublist (entrypointsIn m ls) := by
  induction ls with
  | nil => exact List.Sublist.refl _
  | cons line rest ih =>
    rw [entrypointsIn, entrypointsIn]
    split
    · refine List.Sublist.append ?_ ih
      cases hnear : decorated? (rest.take k.toNat) with
      | none => exact List.nil_sublist _
      | some name =>
        rw [decorated?_take_of_le (Int.toNat_le_toNat hkm) hnear]
    · exact ih

theorem calls_subset {stoplist fewer : List String} (h : ∀ name ∈ fewer, name ∈ stoplist)
    {body : List String} {name : String} (hname : name ∈ calls stoplist body) :
    name ∈ calls fewer body := by
  rw [calls, Ascending.mem_ofList, List.mem_filter] at hname ⊢
  refine ⟨hname.1, ?_⟩
  have hnot : name ∉ stoplist := by simpa using hname.2
  simpa using fun hmem => hnot (h name hmem)

end Source

theorem within_ofExtraction {k m : Int} (hkm : k ≤ m) {stoplist fewer : List String}
    (hfewer : ∀ name ∈ fewer, name ∈ stoplist) {sources : Dict String} {found grown : Extraction}
    (hfound : Extractor.extract ⟨.int k, stoplist⟩ sources = .ok found)
    (hgrown : Extractor.extract ⟨.int m, fewer⟩ sources = .ok grown) :
    (CallGraph.ofExtraction ⟨.int k, stoplist⟩ found).Within found.entrypoints
      (CallGraph.ofExtraction ⟨.int m, fewer⟩ grown) grown.entrypoints where
  calls caller callee hcall := by
    rw [calls_ofExtraction_iff (extract_eq hfound).1] at hcall
    obtain ⟨body, hbody, hcallee⟩ := hcall
    exact (calls_ofExtraction_iff (extract_eq hgrown).1).mpr
      ⟨body, hbody, calls_subset hfewer hcallee⟩
  starts name hname := by
    obtain ⟨file, hfile, names, hnames, hmem⟩ := (mem_entrypoints_extract hfound).mp hname
    obtain rfl : entrypoints k file.2 = names := Except.ok.inj hnames
    refine (mem_entrypoints_extract hgrown).mpr ⟨file, hfile, entrypoints m file.2, rfl, ?_⟩
    exact (entrypointsIn_sublist hkm _).mem hmem

structure Verdict.Grows (v w : Verdict) : Prop where
  verified : v.toClass = .verified → w.toClass = .verified
  unknown : v.toClass = .unknown ↔ w.toClass = .unknown
  reason : v.toClass = .unknown → w.reason = v.reason

namespace Verdict

theorem Grows.refl (v : Verdict) : v.Grows v :=
  ⟨id, Iff.rfl, fun _ => rfl⟩

theorem Grows.of_known {v w : Verdict} (hv : v.toClass ≠ .unknown) (hw : w.toClass ≠ .unknown)
    (h : v.toClass = .verified → w.toClass = .verified) : v.Grows w where
  verified := h
  unknown := iff_of_false hv hw
  reason hunknown := absurd hunknown hv

end Verdict

namespace Evidence

variable {e grown : Evidence} {limits : Limits}

theorem exists_grown_verdict (hl : limits.Whole) (hsources : grown.sources = e.sources)
    (hw : e.graph.Within e.entrypoints grown.graph grown.entrypoints) (shown more : List String)
    (f : Finding) : ∃ v w : Verdict,
      e.judgeWith limits.maxChainDepth e.parents e.texts shown f = .ok v ∧
      grown.judgeWith limits.maxChainDepth grown.parents grown.texts more f = .ok w ∧
      v.Grows w := by
  have htexts : grown.texts = e.texts := by rw [texts, texts, hsources]
  rw [judgeWith, judgeWith, htexts]
  cases e.texts.fetch (Path.normalize f.filePath) with
  | none => exact ⟨.notFetched, .notFetched, rfl, rfl, .refl _⟩
  | some text =>
    dsimp only
    cases containingFunction text f.lineNumber with
    | none => exact ⟨.noFunction, .noFunction, rfl, rfl, .refl _⟩
    | some function =>
      -- The chains may differ in every link; the class depends on whether the function is reached.
      obtain ⟨chain, hchain⟩ := exists_chainWithin hl e function
      obtain ⟨longer, hlonger⟩ := exists_chainWithin hl grown function
      have hreached : e.parents.holds function = true → grown.parents.holds function = true := by
        rw [Dict.holds_iff, Dict.holds_iff, parents, parents, mem_names_reach, mem_names_reach]
        exact hw.reaches
      have hverified : Verdict.Class.verified ≠ .unknown := by decide
      have hrefuted : Verdict.Class.refuted ≠ .unknown := by decide
      dsimp only
      rw [hchain, hlonger]
      cases hold : e.parents.holds function with
      | true =>
        rw [hreached hold]
        exact ⟨_, _, rfl, rfl, .of_known hverified hverified id⟩
      | false =>
        cases grown.parents.holds function with
        | true => exact ⟨_, _, rfl, rfl, .of_known hrefuted hverified fun _ => rfl⟩
        | false => exact ⟨_, _, rfl, rfl, .of_known hrefuted hrefuted id⟩

theorem yields_set_lookahead {v : Value} {judge : Finding → Verdict} :
    e.Yields (limits.set .entrypointLookahead v) judge ↔ e.Yields limits judge :=
  Iff.rfl

theorem exists_yields_grown (hl : limits.Whole) (hsources : grown.sources = e.sources)
    (hw : e.graph.Within e.entrypoints grown.graph grown.entrypoints) :
    ∃ judge judge', e.Yields limits judge ∧ grown.Yields limits judge' ∧
      ∀ f, (judge f).Grows (judge' f) := by
  obtain ⟨n, hn⟩ := hl .maxFindings (by decide)
  obtain ⟨m, hm⟩ := hl .maxEvidenceEntrypoints (by decide)
  choose judge judge' hjudge hjudge' hgrows using exists_grown_verdict hl hsources hw
    (capped m (Ascending.ofList e.entrypoints)) (capped m (Ascending.ofList grown.entrypoints))
  exact ⟨judge, judge', ⟨n, hn, run_verify_of_judgeWith hn hm hjudge⟩,
    ⟨n, hn, run_verify_of_judgeWith hn hm hjudge'⟩, hgrows⟩

end Evidence

theorem verify_grows {limits : Limits} (hl : limits.Whole) (sources : Dict String) :
    (∀ (g h : CallGraph) (starts others : List String), g.Within starts h others →
      ∃ judge judge', Evidence.Yields ⟨g, starts, sources⟩ limits judge ∧
        Evidence.Yields ⟨h, others, sources⟩ limits judge' ∧ ∀ f, (judge f).Grows (judge' f)) ∧
    ∀ (k m : Int) (stoplist fewer : List String), k ≤ m → (∀ name ∈ fewer, name ∈ stoplist) →
      let x : Extractor := ⟨.int k, stoplist⟩
      let y : Extractor := ⟨.int m, fewer⟩
      (∀ text, ∃ names more, x.entrypoints text = .ok names ∧ y.entrypoints text = .ok more ∧
        names.Sublist more) ∧
      ∃ found grown, x.extract sources = .ok found ∧ y.extract sources = .ok grown ∧
        ∃ judge judge',
          (Evidence.ofScan x found found.entrypoints sources).Yields
            (limits.set .entrypointLookahead (.int k)) judge ∧
          (Evidence.ofScan y grown grown.entrypoints sources).Yields
            (limits.set .entrypointLookahead (.int m)) judge' ∧
          ∀ f, (judge f).Grows (judge' f) := by
  refine ⟨fun g h starts others hw => Evidence.exists_yields_grown hl rfl hw, ?_⟩
  intro k m stoplist fewer hkm hfewer x y
  refine ⟨fun text => ⟨_, _, rfl, rfl, entrypointsIn_sublist hkm _⟩, ?_⟩
  obtain ⟨found, hfound⟩ := exists_extract_eq_ok k stoplist sources
  obtain ⟨grown, hgrown⟩ := exists_extract_eq_ok m fewer sources
  refine ⟨found, grown, hfound, hgrown, ?_⟩
  simp only [Evidence.yields_set_lookahead]
  exact Evidence.exists_yields_grown hl rfl (within_ofExtraction hkm hfewer hfound hgrown)

def stackedSources : Dict String :=
  [("a.py", "@app.get(\"/\")\n@cached\ndef handler():\n    helper()\ndef helper():\n    eval(x)\n")]

def handlerGraph (callees : List String) : CallGraph :=
  ⟨[("handler", callees)], [("handler", "a.py")]⟩

theorem within_handlerGraph :
    (handlerGraph ["helper"]).Within ["handler"] (handlerGraph ["helper", "log"])
      ["main", "handler"] where
  calls caller callee h := by
    simp only [Calls, handlerGraph, Dict.fetch, List.lookup_cons] at h ⊢
    cases hcaller : caller == "handler" with
    | false => simp [hcaller] at h
    | true =>
      rw [hcaller] at h
      exact List.mem_append_left ["log"] h
  starts name h := List.mem_cons_of_mem _ h

theorem verify_grows_stacked :
    let x : Extractor := ⟨.int 1, ["def", "helper"]⟩
    let y : Extractor := ⟨.int 2, ["def"]⟩
    ({} : Limits).Whole ∧
    (handlerGraph ["helper"]).Within ["handler"] (handlerGraph ["helper", "log"])
      ["main", "handler"] ∧
    (∃ judge judge',
      Evidence.Yields ⟨handlerGraph ["helper"], ["handler"], stackedSources⟩ {} judge ∧
      Evidence.Yields ⟨handlerGraph ["helper", "log"], ["main", "handler"], stackedSources⟩ {}
        judge' ∧ ∀ f, (judge f).Grows (judge' f)) ∧
    (stackedSources.map fun file => (entrypoints 1 file.2, entrypoints 2 file.2)) =
      [([], ["handler"])] ∧
    ∃ found grown, x.extract stackedSources = .ok found ∧ y.extract stackedSources = .ok grown ∧
      ∃ judge judge',
        (Evidence.ofScan x found found.entrypoints stackedSources).Yields
          (({} : Limits).set .entrypointLookahead (.int 1)) judge ∧
        (Evidence.ofScan y grown grown.entrypoints stackedSources).Yields
          (({} : Limits).set .entrypointLookahead (.int 2)) judge' ∧
        ∀ f, (judge f).Grows (judge' f) := by
  intro x y
  have hwhole : ({} : Limits).Whole := Limits.positive_default.whole_limits
  have hfewer : ∀ name ∈ ["def"], name ∈ ["def", "helper"] := by simp
  obtain ⟨hgraphs, hextractors⟩ := verify_grows hwhole stackedSources
  exact ⟨hwhole, within_handlerGraph, hgraphs _ _ _ _ within_handlerGraph, by decide +kernel,
    (hextractors 1 2 _ _ (by decide) hfewer).2⟩

end DiffReach
