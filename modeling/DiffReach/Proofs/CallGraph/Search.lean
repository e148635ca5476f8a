import DiffReach.Proofs.CallGraph.Path

namespace DiffReach.CallGraph

variable {g : CallGraph} {entrypoints visited queue : List String} {parents : Parents}

/-- The stages of a search: the names visited so far, those reached with their parents, and the
queue. -/
inductive Stage (g : CallGraph) (entrypoints : List String) :
    List String → Parents → List String → Prop
  | start : Stage g entrypoints [] ((Ascending.ofList entrypoints).map fun name => (name, none))
      (Ascending.ofList entrypoints)
  | visit {visited queue : List String} {parents : Parents} {name : String} :
      Stage g entrypoints visited parents (name :: queue) →
      Stage g entrypoints (visited ++ [name]) (parents.extend name (g.fresh parents name))
        (queue ++ g.fresh parents name)

@[simp]
theorem names_extend (parents : Parents) (parent : String) (names : List String) :
    Dict.names (parents.extend parent names) = Dict.names parents ++ names := by
  simp [Parents.extend, Dict.names, Function.comp_def]

theorem names_roots (names : List String) :
    Dict.names (names.map fun name => (name, (none : Option String))) = names := by
  simp [Dict.names, Function.comp_def]

theorem stage_search (h : Stage g entrypoints visited parents queue) :
    ∃ visited, Stage g entrypoints visited (g.search parents queue) [] := by
  fun_induction search g parents queue generalizing visited with
  | case1 parents => exact ⟨visited, h⟩
  | case2 parents name queue new =>
    rename_i ih
    exact ih h.visit

theorem Stage.names_eq (h : Stage g entrypoints visited parents queue) :
    Dict.names parents = visited ++ queue := by
  induction h with
  | start => simpa using names_roots _
  | visit _ ih => simp [ih]

theorem stage_reach (g : CallGraph) (entrypoints : List String) :
    Stage g entrypoints (g.reach entrypoints).names (g.reach entrypoints) [] := by
  obtain ⟨visited, h⟩ := stage_search (Stage.start : Stage g entrypoints _ _ _)
  have hn : (g.reach entrypoints).names = visited := h.names_eq.trans (List.append_nil visited)
  rw [hn]
  exact h

theorem Stage.nodup (h : Stage g entrypoints visited parents queue) :
    (Dict.names parents).Nodup := by
  induction h with
  | start =>
    rw [names_roots]
    exact Ascending.nodup_ofList _
  | @visit visited queue parents name _ ih =>
    rw [names_extend]
    refine ih.append ((Ascending.nodup_ofList _).filter _) ?_
    intro other hold hnew
    exact (mem_fresh.mp hnew).2 hold

theorem Stage.entry_mem (h : Stage g entrypoints visited parents queue) {entry : String}
    (he : entry ∈ entrypoints) : entry ∈ Dict.names parents := by
  induction h with
  | start => simpa [names_roots] using Ascending.mem_ofList.mpr he
  | visit _ ih => simp [ih]

theorem Stage.reaches (h : Stage g entrypoints visited parents queue) {name : String}
    (hn : name ∈ Dict.names parents) : g.Reaches entrypoints name := by
  induction h generalizing name with
  | start =>
    rw [names_roots] at hn
    exact reaches_entry (Ascending.mem_ofList.mp hn)
  | @visit visited queue parents caller hs ih =>
    rw [names_extend, List.mem_append] at hn
    rcases hn with hn | hn
    · exact ih hn
    · have hc : caller ∈ Dict.names parents := by simp [hs.names_eq]
      exact (ih hc).snoc (mem_fresh.mp hn).1

theorem Stage.callee_mem (h : Stage g entrypoints visited parents queue) {caller callee : String}
    (hv : caller ∈ visited) (hc : g.Calls caller callee) : callee ∈ Dict.names parents := by
  induction h with
  | start => simp at hv
  | @visit visited queue parents name _ ih =>
    rw [names_extend, List.mem_append]
    rcases List.mem_append.mp hv with hv | hv
    · exact Or.inl (ih hv)
    · obtain rfl : caller = name := by simpa using hv
      by_cases hold : callee ∈ Dict.names parents
      · exact Or.inl hold
      · exact Or.inr (mem_fresh.mpr ⟨hc, hold⟩)

theorem Stage.closedFrom (h : Stage g entrypoints visited parents []) :
    g.ClosedFrom entrypoints {name | name ∈ Dict.names parents} := by
  refine ⟨fun _ he => h.entry_mem he, fun caller hcaller _ hc => h.callee_mem ?_ hc⟩
  simpa [h.names_eq] using hcaller

theorem mem_names_reach {name : String} :
    name ∈ (g.reach entrypoints).names ↔ g.Reaches entrypoints name :=
  ⟨(stage_reach g entrypoints).reaches, (stage_reach g entrypoints).closedFrom.mem_of_reaches⟩

theorem mem_reachable_reach {name : String} :
    name ∈ (g.reach entrypoints).reachable ↔ g.Reaches entrypoints name :=
  Ascending.mem_ofList.trans mem_names_reach

theorem reachable_isLeast_closedFrom (g : CallGraph) (entrypoints : List String) :
    (∀ name, name ∈ (g.reach entrypoints).reachable ↔ g.Reaches entrypoints name) ∧
      IsLeast {names | g.ClosedFrom entrypoints names}
        {name | name ∈ (g.reach entrypoints).reachable} ∧
      Stage g entrypoints (g.reach entrypoints).names (g.reach entrypoints) [] ∧
      (g.reach entrypoints).names.Nodup := by
  have heq : {name | name ∈ (g.reach entrypoints).reachable}
      = {name | g.Reaches entrypoints name} := Set.ext fun _ => mem_reachable_reach
  have hs := stage_reach g entrypoints
  refine ⟨fun _ => mem_reachable_reach, ?_, hs, hs.nodup⟩
  rw [heq]
  exact ⟨closedFrom_reaches g entrypoints, fun _ hclosed _ hr => hclosed.mem_of_reaches hr⟩

end DiffReach.CallGraph
