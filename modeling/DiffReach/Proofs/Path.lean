import DiffReach.Proofs.Dict
import DiffReach.Proofs.Session
import DiffReach.Proofs.Text.Character
import DiffReach.Scope
import DiffReach.Verdict

namespace DiffReach

namespace Path

open Text

/-- Leading slashes of either direction, then blanks, then one more slash. -/
def HidesSlash (path : String) : Prop :=
  ∃ slashes blanks c rest, path.toList = slashes ++ (blanks ++ c :: rest) ∧
    (∀ d ∈ slashes, d = '/' ∨ d = '\\') ∧ blanks ≠ [] ∧ (∀ d ∈ blanks, isBlank d = true) ∧
    (c = '/' ∨ c = '\\')

theorem forward_eq_slash_iff {c : Char} : forward c = '/' ↔ c = '/' ∨ c = '\\' := by
  rw [forward]
  split
  · rename_i h
    simp [h]
  · rename_i h
    simp [h]

theorem forward_ne_backslash (c : Char) : forward c ≠ '\\' := by
  rw [forward]
  split
  · decide
  · assumption

theorem forward_of_isBlank {c : Char} (h : isBlank c = true) : forward c = c := by
  rw [forward, if_neg]
  rintro rfl
  exact absurd h (by decide)

theorem isBlank_of_isBlank_forward {c : Char} (h : isBlank (forward c) = true) :
    isBlank c = true := by
  rw [forward] at h
  split at h
  · exact absurd h (by decide)
  · exact h

section

variable {cs : List Char}

theorem normalizeChars_sublist (cs : List Char) :
    (normalizeChars cs).Sublist ((cs.map forward).dropWhile (· == '/')) :=
  dropBoth_sublist isBlank _

theorem not_mem_backslash_normalizeChars (cs : List Char) : '\\' ∉ normalizeChars cs := by
  intro h
  have hmem := (List.dropWhile_sublist _).subset ((normalizeChars_sublist cs).subset h)
  obtain ⟨c, -, hc⟩ := List.mem_map.mp hmem
  exact forward_ne_backslash c hc

theorem normalizeChars_eq_self (hback : '\\' ∉ cs) (hslash : cs.head? ≠ some '/')
    (hhead : ∀ c ∈ cs.head?, isBlank c = false) (hlast : ∀ c ∈ cs.getLast?, isBlank c = false) :
    normalizeChars cs = cs := by
  have hmap : cs.map forward = cs := by
    refine (List.map_congr_left fun c hc => ?_).trans (List.map_id cs)
    rw [forward, if_neg]
    · rfl
    · rintro rfl
      exact hback hc
  rw [normalizeChars, hmap, dropWhile_eq_self, trim, dropBoth_eq_self hhead hlast]
  intro c hc
  rw [beq_eq_false_iff_ne]
  rintro rfl
  exact hslash hc

theorem normalizeChars_ne_self (h : cs.head? = some '/') : normalizeChars cs ≠ cs := by
  obtain ⟨rest, rfl⟩ := List.head?_eq_some_iff.mp h
  intro heq
  have hdrop : (('/' :: rest).map forward).dropWhile (· == '/') =
      (rest.map forward).dropWhile (· == '/') := rfl
  have hle := (normalizeChars_sublist ('/' :: rest)).length_le
  have hshort := ((rest.map forward).dropWhile_sublist (· == '/')).length_le
  rw [heq, hdrop, List.length_cons] at hle
  rw [List.length_map] at hshort
  omega

end

theorem toList_normalize (path : String) : (normalize path).toList = normalizeChars path.toList :=
  String.toList_ofList

theorem hidesSlash_of_head? {path : String} (h : (normalize path).toList.head? = some '/') :
    HidesSlash path := by
  rw [toList_normalize, normalizeChars, trim, head?_dropBoth] at h
  obtain ⟨rest, hrest⟩ := List.head?_eq_some_iff.mp h
  have hsplit := List.takeWhile_append_dropWhile (p := isBlank)
    (l := (path.toList.map forward).dropWhile (· == '/'))
  have hpath := List.takeWhile_append_dropWhile (p := (· == '/')) (l := path.toList.map forward)
  rw [hrest] at hsplit
  rw [← hsplit, eq_comm, List.map_eq_append_iff] at hpath
  obtain ⟨slashes, tail, hcs, hslashes, htail⟩ := hpath
  obtain ⟨blanks, last, rfl, hblanks, hlast⟩ := List.map_eq_append_iff.mp htail
  obtain ⟨c, rest, rfl, hc, -⟩ := List.map_eq_cons_iff.mp hlast
  refine ⟨slashes, blanks, c, rest, hcs, fun d hd => ?_, ?_, fun d hd => ?_,
    forward_eq_slash_iff.mp hc⟩
  · have hmem := List.mem_map_of_mem (f := forward) hd
    rw [hslashes] at hmem
    exact forward_eq_slash_iff.mp (by simpa using List.mem_takeWhile_imp hmem)
  · -- Without blanks the slash would be one of the leading ones.
    rintro rfl
    have hnot := List.head?_dropWhile_not (· == '/') (path.toList.map forward)
    rw [← hsplit, ← hblanks] at hnot
    simp at hnot
  · have hmem := List.mem_map_of_mem (f := forward) hd
    rw [hblanks] at hmem
    exact isBlank_of_isBlank_forward (List.mem_takeWhile_imp hmem)

theorem head?_of_hidesSlash {path : String} (h : HidesSlash path) :
    (normalize path).toList.head? = some '/' := by
  obtain ⟨slashes, blanks, c, rest, hpath, hslashes, hne, hblanks, hc⟩ := h
  have hkept : blanks.map forward = blanks :=
    (List.map_congr_left fun d hd => forward_of_isBlank (hblanks d hd)).trans (List.map_id blanks)
  have hleading : ∀ d ∈ slashes.map forward, (d == '/') = true := by
    intro d hd
    obtain ⟨slash, hslash, rfl⟩ := List.mem_map.mp hd
    rw [forward_eq_slash_iff.mpr (hslashes slash hslash)]
    rfl
  have hdrop : (path.toList.map forward).dropWhile (· == '/') =
      blanks ++ '/' :: rest.map forward := by
    rw [hpath, List.map_append, List.dropWhile_append_of_pos hleading, List.map_append, hkept,
      List.map_cons, forward_eq_slash_iff.mpr hc, dropWhile_eq_self]
    intro d hd
    rw [List.head?_append_of_ne_nil _ hne] at hd
    have hblank := hblanks d (List.mem_of_head? hd)
    rw [beq_eq_false_iff_ne]
    rintro rfl
    exact absurd hblank (by decide)
  rw [toList_normalize, normalizeChars, trim, head?_dropBoth, hdrop,
    List.dropWhile_append_of_pos hblanks, List.dropWhile_cons_of_neg (by decide), List.head?_cons]

theorem head?_normalize_iff {path : String} :
    (normalize path).toList.head? = some '/' ↔ HidesSlash path :=
  ⟨hidesSlash_of_head?, head?_of_hidesSlash⟩

theorem normalize_normalize_iff {path : String} :
    normalize (normalize path) = normalize path ↔ ¬ HidesSlash path := by
  rw [← head?_normalize_iff, ← String.toList_inj, toList_normalize (normalize path)]
  constructor
  · exact fun h hslash => normalizeChars_ne_self hslash h
  · intro hslash
    refine normalizeChars_eq_self ?_ hslash ?_ ?_
    all_goals rw [toList_normalize]
    · exact not_mem_backslash_normalizeChars _
    · exact fun c hc => not_of_mem_head?_dropBoth hc
    · exact fun c hc => not_of_mem_getLast?_dropBoth hc

end Path

def Finding.canonical (f : Finding) : Finding :=
  { f with filePath := Path.normalize f.filePath }

theorem Finding.filePath_canonical (f : Finding) :
    f.canonical.filePath = Path.normalize f.filePath :=
  rfl

def Finding.spot (f : Finding) : String × Int :=
  (Path.normalize f.filePath, f.lineNumber)

theorem Finding.spot_canonical {f : Finding} (h : ¬ Path.HidesSlash f.filePath) :
    f.canonical.spot = f.spot :=
  Prod.ext (Path.normalize_normalize_iff.mpr h) rfl

theorem Scope.classify_eq_of_spot {f g : Finding} (h : f.spot = g.spot) (scope : Option Scope) :
    classify scope f = classify scope g := by
  obtain ⟨hpath, hline⟩ := Prod.mk.inj h
  cases scope with
  | none => rfl
  | some scope => rw [classify, classify, judge, judge, hpath, hline]

namespace Value

theorem cut_map {α β : Type} (limit : Value) (f : α → β) (xs : List α) :
    limit.cut (xs.map f) = (limit.cut xs).map (List.map f) := by
  have hcapped (n : Int) : capped n (xs.map f) = (capped n xs).map f := by
    rw [capped, capped, List.length_map]
    split <;> exact (List.map_take ..).symm
  unfold cut
  split
  · rfl
  · cases limit.whole? with
    | none => rfl
    | some n => exact congrArg Except.ok (hcapped n)

end Value

namespace Evidence

variable {e : Evidence} {limits : Limits} {fs gs : List Finding}

theorem judgeWith_eq_of_spot {f g : Finding} (h : f.spot = g.spot) (maxDepth : Value)
    (parents : CallGraph.Parents) (texts : Dict String) (shown : List String) :
    e.judgeWith maxDepth parents texts shown f = e.judgeWith maxDepth parents texts shown g := by
  obtain ⟨hpath, hline⟩ := Prod.mk.inj h
  rw [judgeWith, judgeWith, hpath, hline]

theorem judgeEach_eq_of_spot (h : fs.map Finding.spot = gs.map Finding.spot) (maxDepth : Value)
    (parents : CallGraph.Parents) (texts : Dict String) (shown : List String) :
    (e.judgeEach maxDepth parents texts shown fs).map (List.map Prod.snd) =
      (e.judgeEach maxDepth parents texts shown gs).map (List.map Prod.snd) := by
  induction fs generalizing gs with
  | nil =>
    rw [List.map_nil, eq_comm, List.map_eq_nil_iff] at h
    rw [h]
  | cons f fs ih =>
    obtain ⟨g, gs, rfl⟩ := List.exists_cons_of_ne_nil (l := gs) (by rintro rfl; cases h)
    obtain ⟨hspot, hrest⟩ := List.cons.inj h
    have hverdicts := ih hrest
    rw [judgeEach, judgeEach, judgeWith_eq_of_spot hspot]
    cases e.judgeWith maxDepth parents texts shown g with
    | error fault => rfl
    | ok verdict =>
      have hcons (entries : Except Fault (List (Finding × Verdict))) (f : Finding) :
          (Except.ok verdict >>= fun v => entries >>= fun vs => pure ((f, v) :: vs)).map
              (List.map Prod.snd) =
            (entries.map (List.map Prod.snd)).map (verdict :: ·) := by
        cases entries <;> rfl
      rw [hcons, hcons, hverdicts]

theorem seen_firstFindings_of_spot (h : fs.map Finding.spot = gs.map Finding.spot)
    (network : Host.Network) (journal : Journal) :
    Session.seen (List.map Finding.spot) ((firstFindings limits fs).run network journal) =
      Session.seen (List.map Finding.spot) ((firstFindings limits gs).run network journal) := by
  have hlength : fs.length = gs.length := by simpa using congrArg List.length h
  have hcut : (limits.maxFindings.cut fs).map (List.map Finding.spot) =
      (limits.maxFindings.cut gs).map (List.map Finding.spot) := by
    rw [← Value.cut_map, h, Value.cut_map]
  rw [firstFindings, firstFindings, hlength]
  cases limits.maxFindings.isExceededBy gs.length with
  | error fault => rfl
  | ok isOver =>
    cases isOver with
    | false => exact congrArg (fun spots => (Except.ok spots, journal)) h
    | true => exact Session.seen_run_settle hcut

theorem seen_verify_of_spot (h : fs.map Finding.spot = gs.map Finding.spot)
    (network : Host.Network) (journal : Journal) :
    Session.seen (List.map Prod.snd) ((e.verify limits fs).run network journal) =
      Session.seen (List.map Prod.snd) ((e.verify limits gs).run network journal) := by
  rw [verify, verify]
  cases limits.maxEvidenceEntrypoints.cut (Ascending.ofList e.entrypoints) with
  | error fault => rfl
  | ok shown =>
    rw [Session.run_bind_of_ok (Session.run_settle_ok _ _ _),
      Session.run_bind_of_ok (Session.run_settle_ok _ _ _)]
    refine Session.seen_run_bind (seen_firstFindings_of_spot h network journal) ?_
    intro chosen others hchosen later
    exact Session.seen_run_settle (judgeEach_eq_of_spot hchosen _ _ _ _)

end Evidence

structure Finding.StandsAs (g f : Finding) : Prop where
  newness : ∀ scope, Scope.classify scope g = Scope.classify scope f
  verdicts : ∀ (e : Evidence) limits before after network journal,
    Session.seen (List.map Prod.snd)
        ((e.verify limits (before ++ g :: after)).run network journal) =
      Session.seen (List.map Prod.snd)
        ((e.verify limits (before ++ f :: after)).run network journal)

theorem Finding.standsAs_of_spot {f g : Finding} (h : g.spot = f.spot) : g.StandsAs f where
  newness := Scope.classify_eq_of_spot h
  verdicts e limits before after network journal := by
    refine Evidence.seen_verify_of_spot ?_ network journal
    rw [List.map_append, List.map_append, List.map_cons, List.map_cons, h]

section Apart

variable {f : Finding}

def Scope.ofFile (path : String) : Scope :=
  ⟨"acme/shop", 1, "", "", "", [path], [], []⟩

def Evidence.ofFile (path : String) : Evidence :=
  ⟨⟨[], []⟩, [], [(path, "def f():")]⟩

theorem Scope.classify_ofFile (path : String) :
    classify (some (ofFile path)) f =
      if Path.normalize f.filePath = path then (true, some .wholeFile) else (false, none) := by
  simp [classify, judge, ofFile, Dict.fetch]

theorem containingFunction_ofFile (line : Int) :
    Source.containingFunction "def f():" line = some "f" := by
  have htake : (Text.lines "def f():").take (max 1 line).toNat = ["def f():"] := by
    have hlines : Text.lines "def f():" = ["def f():"] := rfl
    rw [hlines, List.take_of_length_le]
    rw [List.length_singleton]
    omega
  rw [Source.containingFunction, htake]
  rfl

theorem Evidence.judge_ofFile (path : String) :
    (ofFile path).judge {} f =
      if Path.normalize f.filePath = Path.normalize path then .ok (.unreached "f" [])
      else .ok .notFetched := by
  have hparents : (ofFile path).parents = [] := by
    rw [parents, CallGraph.reach, CallGraph.search.eq_def]
    rfl
  have hshown : ({} : Limits).maxEvidenceEntrypoints.cut
      (Ascending.ofList (ofFile path).entrypoints) = .ok [] := rfl
  have hjudge : (ofFile path).judge {} f =
      (ofFile path).judgeWith (.int 50) [] (ofFile path).texts [] f := by
    rw [judge, hshown, hparents]
    exact pure_bind [] _
  have hfetch : (ofFile path).texts.fetch (Path.normalize f.filePath) =
      if Path.normalize f.filePath = Path.normalize path then some "def f():" else none :=
    Dict.fetch_cons _ _ _ _
  by_cases h : Path.normalize f.filePath = Path.normalize path
  · rw [if_pos h] at hfetch
    simp only [hjudge, judgeWith, hfetch, containingFunction_ofFile, if_pos h]
    rfl
  · rw [if_neg h] at hfetch
    simp only [hjudge, judgeWith, hfetch, if_neg h]

end Apart

namespace Path

open Text

theorem apart_of_hidesSlash {f : Finding} (h : HidesSlash f.filePath) :
    (∃ scope, (Scope.classify scope f).1 = true ∧ (Scope.classify scope f.canonical).1 = false) ∧
    ∃ (e : Evidence) (limits : Limits) (v w : Verdict), e.judge limits f = .ok v ∧
      e.judge limits f.canonical = .ok w ∧ v.toClass = .unknown ∧ w.toClass = .refuted := by
  have hne : normalize (normalize f.filePath) ≠ normalize f.filePath :=
    mt normalize_normalize_iff.mp (not_not.mpr h)
  refine ⟨⟨some (.ofFile (normalize f.filePath)), ?_, ?_⟩,
    .ofFile (normalize f.filePath), {}, .notFetched, .unreached "f" [], ?_, ?_, rfl, rfl⟩
  · rw [Scope.classify_ofFile, if_pos rfl]
  · rw [Scope.classify_ofFile, Finding.filePath_canonical, if_neg hne]
  · rw [Evidence.judge_ofFile, if_neg (Ne.symm hne)]
  · rw [Evidence.judge_ofFile, Finding.filePath_canonical, if_pos rfl]

theorem normalize_canonical_iff (path : String) :
    '\\' ∉ (normalize path).toList ∧
    (∀ c ∈ (normalize path).toList.head?, isBlank c = false) ∧
    (∀ c ∈ (normalize path).toList.getLast?, isBlank c = false) ∧
    ((normalize path).toList.head? = some '/' ↔ HidesSlash path) ∧
    (normalize (normalize path) = normalize path ↔ ¬ HidesSlash path) ∧
    ∀ f : Finding, f.filePath = path →
      (¬ HidesSlash path → f.canonical.StandsAs f) ∧
      (HidesSlash path →
        (∃ scope, (Scope.classify scope f).1 = true ∧
          (Scope.classify scope f.canonical).1 = false) ∧
        ∃ (e : Evidence) (limits : Limits) (v w : Verdict), e.judge limits f = .ok v ∧
          e.judge limits f.canonical = .ok w ∧ v.toClass = .unknown ∧ w.toClass = .refuted) := by
  refine ⟨?_, ?_, ?_, head?_normalize_iff, normalize_normalize_iff, ?_⟩
  · rw [toList_normalize]
    exact not_mem_backslash_normalizeChars _
  · rw [toList_normalize]
    exact fun c hc => not_of_mem_head?_dropBoth hc
  · rw [toList_normalize]
    exact fun c hc => not_of_mem_getLast?_dropBoth hc
  · rintro f rfl
    exact ⟨fun h => Finding.standsAs_of_spot (Finding.spot_canonical h), apart_of_hidesSlash⟩

def findingAt (path : String) : Finding :=
  ⟨"A", path, 1, "", "", "", .null, none, false, .null, "1"⟩

theorem normalize_canonical_iff_windows :
    normalize "\\src\\a.py " = "src/a.py" ∧ ¬ HidesSlash "\\src\\a.py " ∧
    normalize (normalize "\\src\\a.py ") = normalize "\\src\\a.py " ∧
    (findingAt "\\src\\a.py ").canonical.StandsAs (findingAt "\\src\\a.py ") ∧
    HidesSlash "/ \\a.py" ∧
    ∃ scope, (Scope.classify scope (findingAt "/ \\a.py")).1 = true ∧
      (Scope.classify scope (findingAt "/ \\a.py").canonical).1 = false := by
  have hhidden : HidesSlash "/ \\a.py" :=
    head?_normalize_iff.mp (by decide +kernel)
  obtain ⟨-, -, -, hslash, hself, hstands⟩ := normalize_canonical_iff "\\src\\a.py "
  have hplain : ¬ HidesSlash "\\src\\a.py " := mt hslash.mpr (by decide +kernel)
  obtain ⟨-, -, -, -, -, hapart⟩ := normalize_canonical_iff "/ \\a.py"
  exact ⟨by decide +kernel, hplain, hself.mpr hplain,
    (hstands (findingAt "\\src\\a.py ") rfl).1 hplain, hhidden,
    ((hapart (findingAt "/ \\a.py") rfl).2 hhidden).1⟩

/-- A slash behind a blank stays, and the finding is not found in the scope of its own file. -/
theorem normalize_hidden :
    normalize " /a.py" = "/a.py" ∧ normalize (normalize " /a.py") = "a.py" ∧
    Scope.classify (some (.ofFile "a.py")) (findingAt " /a.py") = (false, none) ∧
    Scope.classify (some (.ofFile "a.py")) (findingAt " /a.py").canonical =
      (true, some .wholeFile) := by
  decide +kernel

end Path

end DiffReach
