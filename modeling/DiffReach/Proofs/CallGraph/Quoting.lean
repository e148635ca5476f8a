import DiffReach.Proofs.CallGraph.Dot
import DiffReach.Proofs.Source.LastDefinition

namespace DiffReach.CallGraph

def readQuoted : List Char → Option (List Char × List Char)
  | [] => none
  | '"' :: cs => some ([], cs)
  | '\\' :: '"' :: cs => (readQuoted cs).map (Prod.map ('"' :: ·) id)
  | c :: cs => (readQuoted cs).map (Prod.map (c :: ·) id)

inductive Quotes : List Char → List (List Char) → Prop
  | done : Quotes [] []
  | bare {c : Char} {cs : List Char} {texts : List (List Char)} :
      c ≠ '"' → Quotes cs texts → Quotes (c :: cs) texts
  | quoted {cs text rest : List Char} {texts : List (List Char)} :
      readQuoted cs = some (text, rest) → Quotes rest texts → Quotes ('"' :: cs) (text :: texts)

def EndsInBackslash (s : String) : Prop :=
  s.toList.getLast? = some '\\'

instance (s : String) : Decidable (EndsInBackslash s) :=
  inferInstanceAs (Decidable (_ = _))

section Reading

variable {c : Char} {cs text rest : List Char} {texts : List (List Char)}

theorem readQuoted_escaped (cs : List Char) :
    readQuoted ('\\' :: '"' :: cs) = (readQuoted cs).map (Prod.map ('"' :: ·) id) :=
  rfl

theorem readQuoted_plain (hc : c ≠ '"') (hcs : c = '\\' → cs.head? ≠ some '"') :
    readQuoted (c :: cs) = (readQuoted cs).map (Prod.map (c :: ·) id) := by
  refine readQuoted.eq_4 c cs hc fun rest hslash hrest => ?_
  rw [hrest] at hcs
  exact hcs hslash rfl

def escaped (text : List Char) : List Char :=
  text.flatMap escapeQuote

theorem escaped_cons_quote (text : List Char) :
    escaped ('"' :: text) = '\\' :: '"' :: escaped text :=
  rfl

theorem escaped_cons (hc : c ≠ '"') (text : List Char) :
    escaped (c :: text) = c :: escaped text := by
  rw [escaped, List.flatMap_cons, escapeQuote, if_neg hc]
  rfl

theorem escaped_append (text other : List Char) :
    escaped (text ++ other) = escaped text ++ escaped other :=
  List.flatMap_append

theorem head?_escaped_append (hrest : text = [] → rest.head? ≠ some '"') :
    (escaped text ++ rest).head? ≠ some '"' := by
  cases text with
  | nil => exact hrest rfl
  | cons c text =>
    by_cases hc : c = '"'
    · subst hc
      rw [escaped_cons_quote]
      simp
    · rw [escaped_cons hc]
      simpa using hc

/-- What was escaped is read back if its last character does not join with what follows. -/
theorem readQuoted_escaped_append (h : text.getLast? = some '\\' → rest.head? ≠ some '"') :
    readQuoted (escaped text ++ rest) = (readQuoted rest).map (Prod.map (text ++ ·) id) := by
  induction text with
  | nil =>
    have hid : (Prod.map ([] ++ ·) id : List Char × List Char → _) = id := rfl
    rw [hid, Option.map_id]
    rfl
  | cons c text ih =>
    have htail : text.getLast? = some '\\' → rest.head? ≠ some '"' := by
      intro hlast
      rw [List.getLast?_cons, hlast] at h
      exact h rfl
    by_cases hc : c = '"'
    · subst hc
      rw [escaped_cons_quote, List.cons_append, List.cons_append, readQuoted_escaped, ih htail]
      cases readQuoted rest <;> rfl
    · have hjoin : c = '\\' → (escaped text ++ rest).head? ≠ some '"' := by
        rintro rfl
        refine head?_escaped_append fun hnil => ?_
        subst hnil
        exact h rfl
      rw [escaped_cons hc, List.cons_append, readQuoted_plain hc hjoin, ih htail]
      cases readQuoted rest <;> rfl

theorem readQuoted_of_not_backslash (h : text.getLast? ≠ some '\\') (after : List Char) :
    readQuoted (escaped text ++ '"' :: after) = some (text, after) := by
  rw [readQuoted_escaped_append fun hlast => absurd hlast h]
  simp [readQuoted]

/-- The backslash at the end and the closing quote read as one quote, so that the text goes on. -/
theorem readQuoted_of_backslash (h : text.getLast? = some '\\') (after : List Char) :
    readQuoted (escaped text ++ '"' :: after) =
      (readQuoted after).map (Prod.map (text.dropLast ++ '"' :: ·) id) := by
  obtain ⟨init, rfl⟩ := List.getLast?_eq_some_iff.mp h
  have hjoin : escaped (init ++ ['\\']) ++ '"' :: after = escaped init ++ '\\' :: '"' :: after := by
    rw [escaped_append, List.append_assoc]
    rfl
  have hnext : ('\\' :: '"' :: after).head? ≠ some '"' := by simp
  have hread := readQuoted_escaped_append fun _ : init.getLast? = some '\\' => hnext
  rw [hjoin, hread, readQuoted_escaped, List.dropLast_concat]
  cases readQuoted after <;> rfl

theorem readQuoted_eq_some_iff {after : List Char} :
    readQuoted (escaped text ++ '"' :: after) = some (text, rest) ↔
      text.getLast? ≠ some '\\' ∧ rest = after := by
  by_cases h : text.getLast? = some '\\'
  · rw [readQuoted_of_backslash h after]
    refine iff_of_false (fun hread => ?_) fun hend => hend.1 h
    obtain ⟨⟨more, last⟩, -, hpair⟩ := Option.map_eq_some_iff.mp hread
    obtain ⟨init, rfl⟩ := List.getLast?_eq_some_iff.mp h
    have htext : init ++ '"' :: more = init ++ ['\\'] := by
      simpa [Prod.map] using congrArg Prod.fst hpair
    have hcons := List.append_cancel_left htext
    simp at hcons
  · rw [readQuoted_of_not_backslash h after]
    simp [h, eq_comm]

theorem quotes_bare_iff (hc : c ≠ '"') : Quotes (c :: cs) texts ↔ Quotes cs texts := by
  constructor
  · intro h
    cases h with
    | bare _ h => exact h
    | quoted => exact absurd rfl hc
  · exact .bare hc

theorem quotes_quoted_iff : Quotes ('"' :: cs) (text :: texts) ↔
    ∃ rest, readQuoted cs = some (text, rest) ∧ Quotes rest texts := by
  constructor
  · intro h
    cases h with
    | bare hc => exact absurd rfl hc
    | quoted hread h => exact ⟨_, hread, h⟩
  · rintro ⟨rest, hread, h⟩
    exact .quoted hread h

end Reading

/-- A stretch of a drawing carries texts: whatever follows it, the drawing can be read with these
texts in this place if none of them ends in a backslash and the rest can be read. -/
def Carries (part : String) (texts : List String) : Prop :=
  ∀ rest others, Quotes (part.toList ++ rest) (texts.map String.toList ++ others) ↔
    (∀ s ∈ texts, ¬ EndsInBackslash s) ∧ Quotes rest others

theorem carries_bare {part : String} (h : '"' ∉ part.toList) : Carries part [] := by
  intro rest others
  simp only [List.map_nil, List.nil_append, List.not_mem_nil, false_implies, implies_true, true_and]
  generalize part.toList = cs at h
  induction cs with
  | nil => rfl
  | cons c cs ih =>
    obtain ⟨hc, hcs⟩ := not_or.mp (List.mem_cons.not.mp h)
    rw [List.cons_append, quotes_bare_iff (Ne.symm hc), ih hcs]

theorem carries_dotQuote (s : String) : Carries (dotQuote s) [s] := by
  intro rest others
  have htext : (dotQuote s).toList ++ rest = '"' :: (escaped s.toList ++ '"' :: rest) := by
    rw [dotQuote, String.toList_ofList, List.cons_append, List.append_assoc]
    rfl
  rw [htext, List.map_singleton, List.singleton_append, quotes_quoted_iff,
    List.forall_mem_singleton]
  simp only [readQuoted_eq_some_iff, and_assoc, exists_and_left, exists_eq_left]
  rfl

theorem Carries.append {part other : String} {texts more : List String} (h : Carries part texts)
    (hother : Carries other more) : Carries (part ++ other) (texts ++ more) := by
  intro rest others
  rw [String.toList_append, List.append_assoc, List.map_append, List.append_assoc, h, hother,
    List.forall_mem_append, and_assoc]

theorem carries_unlines {ls : List String} {texts : List (List String)}
    (h : List.Forall₂ Carries ls texts) : Carries (Text.unlines ls) texts.flatten := by
  induction h with
  | nil => exact carries_bare (by decide)
  | @cons line first ls texts hline hls ih =>
    cases hls with
    | nil =>
      rw [Text.unlines, String.intercalate_singleton, List.flatten_singleton]
      exact hline
    | cons _ _ =>
      have hfeed : Carries "\n" [] := carries_bare (by decide)
      rw [Text.unlines, String.intercalate_cons_cons, List.flatten_cons, ← List.append_nil first]
      exact (hline.append hfeed).append ih

def NodeStatement.quoted (s : NodeStatement) : List String :=
  [s.name, s.name] ++ (s.tooltip.toList ++ if s.isFilled then ["#f6c7c7"] else [])

theorem NodeStatement.carries_text (s : NodeStatement) : Carries s.text s.quoted := by
  have hmargin : Carries "  " [] := carries_bare (by decide)
  have hlabel : Carries " [label=" [] := carries_bare (by decide)
  have hclose : Carries "];" [] := carries_bare (by decide)
  have hname := carries_dotQuote s.name
  have hfile : Carries (s.tooltip.elim "" fun file => " tooltip=" ++ dotQuote file)
      s.tooltip.toList := by
    cases s.tooltip with
    | none => exact carries_bare (by decide)
    | some file => exact (carries_bare (by decide)).append (carries_dotQuote file)
  have hbox : Carries (if s.isBox then " shape=box" else "") [] := by
    cases s.isBox <;> exact carries_bare (by decide)
  have hfilled : Carries (if s.isFilled then " style=filled fillcolor=\"#f6c7c7\"" else "")
      (if s.isFilled then ["#f6c7c7"] else []) := by
    cases s.isFilled with
    | false => exact carries_bare (by decide)
    | true =>
      have hstyle : Carries " style=filled fillcolor=" [] := carries_bare (by decide)
      have htext : " style=filled fillcolor=\"#f6c7c7\"" =
          " style=filled fillcolor=" ++ dotQuote "#f6c7c7" := by decide +kernel
      rw [if_pos rfl, if_pos rfl, htext]
      exact hstyle.append (carries_dotQuote "#f6c7c7")
  have hall := ((((((hmargin.append hname).append hlabel).append hname).append hfile).append
    hbox).append hfilled).append hclose
  simp only [List.nil_append, List.append_nil, List.append_assoc, List.singleton_append] at hall
  exact hall

theorem carries_drawing (nodes : List NodeStatement) (edges : List (String × String)) :
    Carries (drawing nodes edges)
      (nodes.flatMap NodeStatement.quoted ++ edges.flatMap fun edge => [edge.1, edge.2]) := by
  have hhead : List.Forall₂ Carries ["digraph CallGraph \x7b", "  rankdir=LR;"] [[], []] :=
    .cons (carries_bare (by decide)) (.cons (carries_bare (by decide)) .nil)
  have hnodes : List.Forall₂ Carries (nodes.map NodeStatement.text)
      (nodes.map NodeStatement.quoted) := by
    rw [List.forall₂_map_left_iff, List.forall₂_map_right_iff, List.forall₂_same]
    exact fun s _ => s.carries_text
  have hedges : List.Forall₂ Carries
      (edges.map fun edge => "  " ++ dotQuote edge.1 ++ " -> " ++ dotQuote edge.2 ++ ";")
      (edges.map fun edge => [edge.1, edge.2]) := by
    rw [List.forall₂_map_left_iff, List.forall₂_map_right_iff, List.forall₂_same]
    rintro ⟨caller, callee⟩ -
    have hmargin : Carries "  " [] := carries_bare (by decide)
    have harrow : Carries " -> " [] := carries_bare (by decide)
    have hend : Carries ";" [] := carries_bare (by decide)
    exact (((hmargin.append (carries_dotQuote caller)).append harrow).append
      (carries_dotQuote callee)).append hend
  have hlast : List.Forall₂ Carries ["\x7d"] [[]] := .cons (carries_bare (by decide)) .nil
  have hall := carries_unlines (List.rel_append (List.rel_append (List.rel_append hhead hnodes)
    hedges) hlast)
  simp only [List.flatten_append, List.flatten_cons, List.flatten_nil, List.nil_append,
    List.append_nil, ← List.flatMap_def] at hall
  exact hall

def quotedTexts (g : CallGraph) (entrypoints : List String) (focus : String) : List String :=
  ((g.drawable.around focus).nodes.map (g.statement entrypoints)).flatMap NodeStatement.quoted
    ++ (g.drawable.around focus).edges.flatMap fun edge => [edge.1, edge.2]

section Drawings

variable {g : CallGraph} {entrypoints : List String} {focus name : String}

theorem quotes_dot_iff : Quotes (g.dot entrypoints focus).toList
    ((g.quotedTexts entrypoints focus).map String.toList) ↔
      ∀ s ∈ g.quotedTexts entrypoints focus, ¬ EndsInBackslash s := by
  have hcarries := carries_drawing ((g.drawable.around focus).nodes.map (g.statement entrypoints))
    (g.drawable.around focus).edges
  rw [← dot_eq_drawing] at hcarries
  have hall := hcarries [] []
  rw [List.append_nil, List.append_nil] at hall
  rw [quotedTexts, hall]
  exact and_iff_left .done

theorem DrawsName.defined (h : g.DrawsName focus name) : name ∈ g.edges.names := by
  by_cases hn : g.Narrows focus
  · rcases h.narrowed hn with hin | ⟨caller, callee, hcall, rfl | rfl⟩
    · exact hin.1
    · exact hcall.caller_defined
    · exact hcall.callee_defined
  · exact h.whole hn

theorem mem_quotedTexts {s : String} (h : s ∈ g.quotedTexts entrypoints focus) :
    s ∈ g.edges.names ∨ (∃ name, g.definedIn.fetch name = some s) ∨ s = "#f6c7c7" := by
  rw [quotedTexts, List.mem_append, List.mem_flatMap, List.mem_flatMap] at h
  rcases h with ⟨_, hmem, hs⟩ | ⟨⟨caller, callee⟩, hedge, hs⟩
  · obtain ⟨name, hname, rfl⟩ := List.mem_map.mp hmem
    have hdefined := (mem_around_nodes.mp hname).defined
    rw [NodeStatement.quoted, List.mem_append, List.mem_append, Option.mem_toList] at hs
    rcases hs with hs | hs | hs
    · obtain rfl : s = name := by simpa [statement] using hs
      exact .inl hdefined
    · exact .inr (.inl ⟨name, hs⟩)
    · split at hs
      · exact .inr (.inr (List.mem_singleton.mp hs))
      · cases hs
  · have hcall := mem_around_edges.mp hedge
    rcases List.mem_pair.mp hs with rfl | rfl
    · exact .inl hcall.caller_defined
    · exact .inl hcall.callee_defined

theorem DrawsName.mem_quotedTexts (h : g.DrawsName focus name) (entrypoints : List String) :
    name ∈ g.quotedTexts entrypoints focus :=
  List.mem_append_left _ (List.mem_flatMap.mpr ⟨g.statement entrypoints name,
    List.mem_map_of_mem (mem_around_nodes.mpr h), List.mem_cons_self⟩)

theorem reach_nil (g : CallGraph) : g.reach [] = [] := by
  rw [reach]
  exact search.eq_1 g []

end Drawings

section Scans

open Source

variable {x : Extractor} {sources : Dict String} {found : Extraction}

theorem not_endsInBackslash_of_definedName? {line name : String}
    (h : definedName? line = some name) : ¬ EndsInBackslash name := by
  intro hlast
  obtain ⟨-, -, -, -, -, -, -, -, -, hname, -⟩ := isDefinition_of_definedName? h
  have hword := hname.isWord _ (List.mem_of_getLast? hlast)
  exact absurd hword (by decide)

theorem not_endsInBackslash_of_mem_edges (h : x.extract sources = .ok found) {name : String}
    (hname : name ∈ (ofExtraction x found).edges.names) : ¬ EndsInBackslash name := by
  rw [mem_names_edges_iff (extract_eq h).1, names_allSegments, Source.allNames,
    List.mem_flatMap] at hname
  obtain ⟨file, -, hdefined⟩ := hname
  obtain ⟨line, -, hline⟩ := List.mem_filterMap.mp hdefined
  exact not_endsInBackslash_of_definedName? hline

theorem mem_names_of_fetch_definedIn (h : x.extract sources = .ok found) {name path : String}
    (hpath : (ofExtraction x found).definedIn.fetch name = some path) : path ∈ sources.names := by
  rw [ofExtraction, (extract_eq h).2, Dict.fetch_gather_eq_some_iff] at hpath
  obtain ⟨before, after, hfiles, -⟩ := hpath
  have hmem : (name, path) ∈ allFiles sources := by simp [hfiles]
  obtain ⟨file, hfile, hentry⟩ := List.mem_flatMap.mp hmem
  obtain ⟨segment, -, heq⟩ := List.mem_map.mp hentry
  rw [← (Prod.mk.inj heq).2]
  exact List.mem_map_of_mem hfile

theorem quotes_dot_ofExtraction (h : x.extract sources = .ok found)
    (hpaths : ∀ path ∈ sources.names, ¬ EndsInBackslash path) (entrypoints : List String)
    (focus : String) : Quotes ((ofExtraction x found).dot entrypoints focus).toList
      (((ofExtraction x found).quotedTexts entrypoints focus).map String.toList) := by
  refine quotes_dot_iff.mpr fun s hs => ?_
  rcases mem_quotedTexts hs with hname | ⟨name, hpath⟩ | rfl
  · exact not_endsInBackslash_of_mem_edges h hname
  · exact hpaths s (mem_names_of_fetch_definedIn h hpath)
  · decide

end Scans

theorem dot_read_back (g : CallGraph) (entrypoints : List String) (focus : String) :
    (Quotes (g.dot entrypoints focus).toList
        ((g.quotedTexts entrypoints focus).map String.toList) ↔
      ∀ s ∈ g.quotedTexts entrypoints focus, ¬ EndsInBackslash s) ∧
    (∀ (s : String) (after : List Char),
      readQuoted ((dotQuote s).toList.tail ++ after) =
        if EndsInBackslash s then
          (readQuoted after).map (Prod.map (s.toList.dropLast ++ '"' :: ·) id)
        else some (s.toList, after)) ∧
    ∀ (x : Source.Extractor) (sources : Dict String) (found : Source.Extraction),
      x.extract sources = .ok found → (∀ path ∈ sources.names, ¬ EndsInBackslash path) →
        Quotes ((ofExtraction x found).dot entrypoints focus).toList
          (((ofExtraction x found).quotedTexts entrypoints focus).map String.toList) := by
  refine ⟨quotes_dot_iff, fun s after => ?_, fun x sources found h hpaths =>
    quotes_dot_ofExtraction h hpaths entrypoints focus⟩
  have htail : (dotQuote s).toList.tail ++ after = escaped s.toList ++ '"' :: after := by
    rw [dotQuote, String.toList_ofList, List.tail_cons, List.append_assoc]
    rfl
  rw [htail]
  split
  · rename_i hends
    exact readQuoted_of_backslash hends after
  · rename_i hends
    exact readQuoted_of_not_backslash hends after

def quotingGraph : CallGraph :=
  ⟨[("say \"hi\"", ["\\\"x"]), ("\\\"x", [])], [("\\\"x", "dir\\\"a\".py")]⟩

def quotingSources : Dict String :=
  [("src\\\"a\".py", "@app.get\ndef first():\n  second()\ndef second():\n  pass")]

theorem dot_read_back_quoting :
    (∀ s ∈ quotingGraph.quotedTexts [] "", ¬ EndsInBackslash s) ∧
    Quotes (quotingGraph.dot [] "").toList
      ((quotingGraph.quotedTexts [] "").map String.toList) ∧
    (∀ path ∈ quotingSources.names, ¬ EndsInBackslash path) ∧
    ∃ found, ({} : Source.Extractor).extract quotingSources = .ok found ∧
      Quotes ((ofExtraction {} found).dot found.entrypoints "").toList
        (((ofExtraction {} found).quotedTexts found.entrypoints "").map String.toList) := by
  have htexts : ∀ s ∈ quotingGraph.quotedTexts [] "", ¬ EndsInBackslash s := by
    have hnames : ∀ name ∈ quotingGraph.edges.names, ¬ EndsInBackslash name := by decide
    have hfiles : ∀ entry ∈ quotingGraph.definedIn, ¬ EndsInBackslash entry.2 := by decide
    intro s hs
    rcases mem_quotedTexts hs with hname | ⟨name, hfile⟩ | rfl
    · exact hnames s hname
    · exact hfiles (name, s) (Dict.mem_of_fetch hfile)
    · decide
  have hpaths : ∀ path ∈ quotingSources.names, ¬ EndsInBackslash path := by decide
  obtain ⟨found, hfound⟩ := Source.exists_extract_eq_ok 5 Source.keywords quotingSources
  refine ⟨htexts, (dot_read_back quotingGraph [] "").1.mpr htexts, hpaths, found, hfound, ?_⟩
  exact (dot_read_back quotingGraph found.entrypoints "").2.2 {} quotingSources found hfound hpaths

def slashedGraph : CallGraph :=
  ⟨[("a\\", [])], []⟩

/-- The name takes up the text between the first two quoted ones. -/
theorem dot_slashed :
    slashedGraph.dot [] "" =
      "digraph CallGraph \x7b\n  rankdir=LR;\n  \"a\\\" [label=\"a\\\"];\n\x7d" ∧
    ¬ Quotes (slashedGraph.dot [] "").toList
      ((slashedGraph.quotedTexts [] "").map String.toList) ∧
    readQuoted "a\\\" [label=\"a\\\"];\n\x7d".toList =
      some ("a\" [label=".toList, "a\\\"];\n\x7d".toList) := by
  have hdot : slashedGraph.dot [] "" = Text.unlines (
      ["digraph CallGraph \x7b", "  rankdir=LR;",
        slashedGraph.nodeLine [] (slashedGraph.reach []) "a\\", "\x7d"]) := rfl
  have hdrawn : slashedGraph.DrawsName "" "a\\" :=
    mem_around_nodes.mp (by decide +kernel)
  refine ⟨?_, fun hquotes => ?_, by decide +kernel⟩
  · rw [hdot, reach_nil]
    decide +kernel
  · exact quotes_dot_iff.mp hquotes "a\\" (hdrawn.mem_quotedTexts []) (by decide)

end DiffReach.CallGraph
