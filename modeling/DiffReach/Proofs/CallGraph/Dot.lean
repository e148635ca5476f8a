import DiffReach.CallGraph.Dot
import DiffReach.Proofs.Basic
import DiffReach.Proofs.CallGraph.Search

namespace DiffReach

theorem Text.occursIn_iff {part cs : List Char} : occursIn part cs = true ↔ part <:+: cs := by
  induction cs with
  | nil => simp [occursIn]
  | cons c cs ih =>
    rw [occursIn, Bool.or_eq_true, List.isPrefixOf_iff_prefix, ih, List.infix_cons_iff]

namespace CallGraph

structure NodeStatement where
  name : String
  tooltip : Option String
  isBox : Bool
  isFilled : Bool

namespace NodeStatement

def text (s : NodeStatement) : String :=
  "  " ++ dotQuote s.name ++ " [label=" ++ dotQuote s.name
    ++ s.tooltip.elim "" (fun file => " tooltip=" ++ dotQuote file)
    ++ (if s.isBox then " shape=box" else "")
    ++ (if s.isFilled then " style=filled fillcolor=\"#f6c7c7\"" else "") ++ "];"

end NodeStatement

def drawing (nodes : List NodeStatement) (edges : List (String × String)) : String :=
  Text.unlines (["digraph CallGraph \x7b", "  rankdir=LR;"]
    ++ nodes.map NodeStatement.text
    ++ edges.map (fun edge => "  " ++ dotQuote edge.1 ++ " -> " ++ dotQuote edge.2 ++ ";")
    ++ ["\x7d"])

section

variable {g : CallGraph} {entrypoints : List String} {focus name caller callee : String}

def InFocus (g : CallGraph) (focus name : String) : Prop :=
  name ∈ g.edges.names ∧ focus.toList <:+: name.toList

def Narrows (g : CallGraph) (focus : String) : Prop :=
  focus ≠ "" ∧ ∃ name, g.InFocus focus name

structure DrawsCall (g : CallGraph) (focus caller callee : String) : Prop where
  caller_defined : caller ∈ g.edges.names
  callee_defined : callee ∈ g.edges.names
  calls : g.Calls caller callee
  focused : g.Narrows focus → g.InFocus focus caller ∨ g.InFocus focus callee

structure DrawsName (g : CallGraph) (focus name : String) : Prop where
  whole : ¬ g.Narrows focus → name ∈ g.edges.names
  narrowed : g.Narrows focus → g.InFocus focus name ∨
    ∃ caller callee, g.DrawsCall focus caller callee ∧ (name = caller ∨ name = callee)

theorem nodeLine_eq_text (g : CallGraph) (entrypoints : List String) (parents : Parents)
    (name : String) : g.nodeLine entrypoints parents name = NodeStatement.text
      ⟨name, g.definedIn.fetch name, entrypoints.elem name, parents.holds name⟩ := by
  have hbox (c : Bool) : String.join ((if c then ["shape=box"] else []).map (" " ++ ·)) =
      if c then " shape=box" else "" := by
    cases c <;> rfl
  have hfilled (c : Bool) : String.join
      ((if c then ["style=filled fillcolor=\"#f6c7c7\""] else []).map (" " ++ ·)) =
        if c then " style=filled fillcolor=\"#f6c7c7\"" else "" := by
    cases c <;> rfl
  have hfile (file : String) : String.join (["tooltip=" ++ dotQuote file].map (" " ++ ·)) =
      " tooltip=" ++ dotQuote file := by
    rw [List.map_singleton, String.join_cons, String.join_nil, String.append_empty,
      ← String.append_assoc]
    rfl
  have hlabel : " [label=" = " [" ++ "label=" := rfl
  rw [nodeLine, NodeStatement.text, hlabel, List.append_assoc, List.append_assoc,
    List.singleton_append, intercalate_eq_join, List.map_append, List.map_append,
    String.join_append, String.join_append, hbox, hfilled]
  cases g.definedIn.fetch name with
  | none => simp only [List.map_nil, String.join_nil, Option.elim, String.append_assoc]
  | some file => simp only [hfile, Option.elim, String.append_assoc]

theorem mem_drawable_edges : (caller, callee) ∈ g.drawable.edges ↔
    caller ∈ g.edges.names ∧ callee ∈ g.edges.names ∧ g.Calls caller callee := by
  simp only [drawable, List.mem_flatMap, List.mem_map, List.mem_filter, Ascending.mem_ofList,
    mem_callees, Dict.holds_iff, Prod.mk.injEq]
  constructor
  · rintro ⟨_, hcaller, _, ⟨hcalls, hcallee⟩, rfl, rfl⟩
    exact ⟨hcaller, hcallee, hcalls⟩
  · rintro ⟨hcaller, hcallee, hcalls⟩
    exact ⟨caller, hcaller, callee, ⟨hcalls, hcallee⟩, rfl, rfl⟩

def Precedes (first last : String × String) : Prop :=
  first.1 < last.1 ∨ first.1 = last.1 ∧ first.2 < last.2

theorem pairwise_drawable_edges (g : CallGraph) : g.drawable.edges.Pairwise Precedes := by
  rw [drawable, List.pairwise_flatMap]
  constructor
  · intro source _
    rw [List.pairwise_map]
    exact ((Ascending.pairwise_ofList _).filter _).imp fun hlt => .inr ⟨rfl, hlt⟩
  · refine (Ascending.pairwise_ofList _).imp fun hlt first hfirst last hlast => ?_
    obtain ⟨_, _, rfl⟩ := List.mem_map.mp hfirst
    obtain ⟨_, _, rfl⟩ := List.mem_map.mp hlast
    exact .inl hlt

theorem mem_core : name ∈ g.drawable.nodes.filter (matchesFocus focus) ↔ g.InFocus focus name := by
  rw [List.mem_filter, matchesFocus, Text.occursIn_iff, drawable, Ascending.mem_ofList]
  rfl

theorem narrows_iff : g.Narrows focus ↔
    ¬ (focus = "" || (g.drawable.nodes.filter (matchesFocus focus)).isEmpty) = true := by
  rw [Narrows, Bool.or_eq_true, not_or, decide_eq_true_iff, List.isEmpty_iff,
    List.eq_nil_iff_forall_not_mem, not_forall_not]
  simp only [mem_core, ne_eq]

theorem around_of_not_narrows (h : ¬ g.Narrows focus) :
    g.drawable.around focus = g.drawable := by
  rw [narrows_iff, not_not] at h
  rw [Selection.around, if_pos h]

theorem mem_around_edges : (caller, callee) ∈ (g.drawable.around focus).edges ↔
    g.DrawsCall focus caller callee := by
  by_cases h : g.Narrows focus
  · have hedges : (g.drawable.around focus).edges = g.drawable.edges.filter fun edge =>
        (g.drawable.nodes.filter (matchesFocus focus)).elem edge.1 ||
          (g.drawable.nodes.filter (matchesFocus focus)).elem edge.2 := by
      rw [Selection.around, if_neg (narrows_iff.mp h)]
    rw [hedges, List.mem_filter, mem_drawable_edges, Bool.or_eq_true, List.elem_iff, List.elem_iff,
      mem_core, mem_core]
    exact ⟨fun ⟨⟨hcaller, hcallee, hcalls⟩, hfocus⟩ => ⟨hcaller, hcallee, hcalls, fun _ => hfocus⟩,
      fun hd => ⟨⟨hd.caller_defined, hd.callee_defined, hd.calls⟩, hd.focused h⟩⟩
  · rw [around_of_not_narrows h, mem_drawable_edges]
    exact ⟨fun ⟨hcaller, hcallee, hcalls⟩ => ⟨hcaller, hcallee, hcalls, fun hn => absurd hn h⟩,
      fun hd => ⟨hd.caller_defined, hd.callee_defined, hd.calls⟩⟩

theorem mem_around_nodes : name ∈ (g.drawable.around focus).nodes ↔ g.DrawsName focus name := by
  by_cases h : g.Narrows focus
  · have hnodes : (g.drawable.around focus).nodes = Ascending.ofList
        (g.drawable.nodes.filter (matchesFocus focus) ++
          (g.drawable.around focus).edges.map Prod.fst ++
          (g.drawable.around focus).edges.map Prod.snd) := by
      rw [Selection.around, if_neg (narrows_iff.mp h)]
    rw [hnodes, Ascending.mem_ofList, List.mem_append, List.mem_append, mem_core, List.mem_map,
      List.mem_map]
    constructor
    · rintro ((hin | ⟨⟨caller, callee⟩, hedge, rfl⟩) | ⟨⟨caller, callee⟩, hedge, rfl⟩)
      · exact ⟨fun hn => absurd h hn, fun _ => .inl hin⟩
      · exact ⟨fun hn => absurd h hn,
          fun _ => .inr ⟨caller, callee, mem_around_edges.mp hedge, .inl rfl⟩⟩
      · exact ⟨fun hn => absurd h hn,
          fun _ => .inr ⟨caller, callee, mem_around_edges.mp hedge, .inr rfl⟩⟩
    · intro hd
      rcases hd.narrowed h with hin | ⟨caller, callee, hcall, rfl | rfl⟩
      · exact .inl (.inl hin)
      · exact .inl (.inr ⟨(name, callee), mem_around_edges.mpr hcall, rfl⟩)
      · exact .inr ⟨(caller, name), mem_around_edges.mpr hcall, rfl⟩
  · rw [around_of_not_narrows h, drawable, Ascending.mem_ofList]
    exact ⟨fun hd => ⟨fun _ => hd, fun hn => absurd hn h⟩, fun hd => hd.whole h⟩

theorem pairwise_around_edges (g : CallGraph) (focus : String) :
    (g.drawable.around focus).edges.Pairwise Precedes := by
  rw [Selection.around]
  split
  · exact pairwise_drawable_edges g
  · exact (pairwise_drawable_edges g).filter _

theorem pairwise_around_nodes (g : CallGraph) (focus : String) :
    (g.drawable.around focus).nodes.Pairwise (· < ·) := by
  rw [Selection.around]
  split
  · exact Ascending.pairwise_ofList _
  · exact Ascending.pairwise_ofList _

theorem DrawsCall.caller_drawn (h : g.DrawsCall focus caller callee) : g.DrawsName focus caller :=
  ⟨fun _ => h.caller_defined, fun _ => .inr ⟨caller, callee, h, .inl rfl⟩⟩

theorem DrawsCall.callee_drawn (h : g.DrawsCall focus caller callee) : g.DrawsName focus callee :=
  ⟨fun _ => h.callee_defined, fun _ => .inr ⟨caller, callee, h, .inr rfl⟩⟩

end

/-- The statements of a drawing: one for each name and each call that a focus selects, in ascending
order, with marks that go by the whole graph. -/
structure IsDrawing (g : CallGraph) (entrypoints : List String) (focus : String)
    (nodes : List NodeStatement) (edges : List (String × String)) : Prop where
  ascending : (nodes.map NodeStatement.name).Pairwise (· < ·)
  names : ∀ name, name ∈ nodes.map NodeStatement.name ↔ g.DrawsName focus name
  tooltips : ∀ s ∈ nodes, s.tooltip = g.definedIn.fetch s.name
  boxes : ∀ s ∈ nodes, s.isBox = true ↔ s.name ∈ entrypoints
  filled : ∀ s ∈ nodes, s.isFilled = true ↔ g.Reaches entrypoints s.name
  precedes : edges.Pairwise Precedes
  calls : ∀ caller callee, (caller, callee) ∈ edges ↔ g.DrawsCall focus caller callee
  ends_drawn : ∀ edge ∈ edges,
    edge.1 ∈ nodes.map NodeStatement.name ∧ edge.2 ∈ nodes.map NodeStatement.name

def statement (g : CallGraph) (entrypoints : List String) (name : String) : NodeStatement :=
  ⟨name, g.definedIn.fetch name, entrypoints.elem name, (g.reach entrypoints).holds name⟩

theorem map_name_statement (g : CallGraph) (entrypoints names : List String) :
    (names.map (g.statement entrypoints)).map NodeStatement.name = names := by
  rw [List.map_map]
  exact List.map_id names

theorem dot_eq_drawing (g : CallGraph) (entrypoints : List String) (focus : String) :
    g.dot entrypoints focus = drawing
      ((g.drawable.around focus).nodes.map (g.statement entrypoints))
      (g.drawable.around focus).edges := by
  have hnodes : (g.drawable.around focus).nodes.map (g.nodeLine entrypoints (g.reach entrypoints)) =
      ((g.drawable.around focus).nodes.map (g.statement entrypoints)).map NodeStatement.text := by
    rw [List.map_map]
    exact List.map_congr_left fun name _ => g.nodeLine_eq_text entrypoints _ name
  rw [drawing, ← hnodes]
  rfl

theorem exists_dot_eq_drawing (g : CallGraph) (entrypoints : List String) (focus : String) :
    ∃ nodes edges, g.dot entrypoints focus = drawing nodes edges ∧
      g.IsDrawing entrypoints focus nodes edges := by
  refine ⟨_, _, dot_eq_drawing g entrypoints focus, ?_⟩
  constructor
  case ascending =>
    rw [map_name_statement]
    exact pairwise_around_nodes g focus
  case names =>
    intro name
    rw [map_name_statement]
    exact mem_around_nodes
  case tooltips =>
    intro s hs
    obtain ⟨name, -, rfl⟩ := List.mem_map.mp hs
    rfl
  case boxes =>
    intro s hs
    obtain ⟨name, -, rfl⟩ := List.mem_map.mp hs
    exact List.elem_iff
  case filled =>
    intro s hs
    obtain ⟨name, -, rfl⟩ := List.mem_map.mp hs
    exact Dict.holds_iff.trans mem_names_reach
  case precedes => exact pairwise_around_edges g focus
  case calls => exact fun caller callee => mem_around_edges
  case ends_drawn =>
    rintro ⟨caller, callee⟩ hedge
    have hcall := mem_around_edges.mp hedge
    rw [map_name_statement]
    exact ⟨mem_around_nodes.mpr hcall.caller_drawn, mem_around_nodes.mpr hcall.callee_drawn⟩

end CallGraph

end DiffReach
