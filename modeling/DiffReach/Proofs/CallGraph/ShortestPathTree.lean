import DiffReach.Proofs.CallGraph.Search
import DiffReach.Proofs.Dict
import Mathlib.Order.Bounds.Basic

namespace DiffReach.CallGraph

variable {g : CallGraph} {entrypoints visited queue : List String} {parents : Parents}

inductive Parents.Rise (parents : Parents) : Nat → String → Prop
  | root {name : String} : parents.fetch name = some none → Rise parents 0 name
  | up {n : Nat} {name parent : String} :
      parents.fetch name = some (some parent) → Rise parents n parent → Rise parents (n + 1) name

theorem Stage.roots (h : Stage g entrypoints visited parents queue) :
    ∃ late : Parents,
      parents = (Ascending.ofList entrypoints).map (fun name => (name, none)) ++ late ∧
        ∀ entry ∈ late, ∃ caller ∈ visited, entry.2 = some caller := by
  induction h with
  | start => exact ⟨[], by simp, by simp⟩
  | @visit visited queue parents name _ ih =>
    obtain ⟨late, heq, hlate⟩ := ih
    refine ⟨late ++ (g.fresh parents name).map fun callee => (callee, some name), ?_, ?_⟩
    · rw [Parents.extend, ← List.append_assoc, ← heq]
    · intro entry he
      rcases List.mem_append.mp he with he | he
      · obtain ⟨caller, hc, hp⟩ := hlate entry he
        exact ⟨caller, by simp [hc], hp⟩
      · obtain ⟨callee, _, rfl⟩ := List.mem_map.mp he
        exact ⟨name, by simp, rfl⟩

theorem Stage.caller_visited (h : Stage g entrypoints visited parents queue) {name parent : String}
    (hm : (name, some parent) ∈ parents) : parent ∈ visited := by
  obtain ⟨late, heq, hlate⟩ := h.roots
  rw [heq] at hm
  rcases List.mem_append.mp hm with hm | hm
  · simp at hm
  · obtain ⟨caller, hc, hp⟩ := hlate _ hm
    obtain rfl : parent = caller := by simpa using hp
    exact hc

theorem Stage.entry_of_root (h : Stage g entrypoints visited parents queue) {name : String}
    (hm : (name, none) ∈ parents) : name ∈ entrypoints := by
  obtain ⟨late, heq, hlate⟩ := h.roots
  rw [heq] at hm
  rcases List.mem_append.mp hm with hm | hm
  · exact Ascending.mem_ofList.mp (by simpa using hm)
  · obtain ⟨caller, _, hp⟩ := hlate _ hm
    simp at hp

theorem Stage.root_of_entry (h : Stage g entrypoints visited parents queue) {name : String}
    (he : name ∈ entrypoints) : (name, none) ∈ parents := by
  obtain ⟨late, heq, _⟩ := h.roots
  rw [heq]
  exact List.mem_append_left _ (List.mem_map.mpr ⟨name, Ascending.mem_ofList.mpr he, rfl⟩)

theorem Stage.not_entry_of_parent (h : Stage g entrypoints visited parents queue)
    {name parent : String} (hm : (name, some parent) ∈ parents) : name ∉ entrypoints := by
  intro he
  have hsome := Dict.fetch_of_mem h.nodup hm
  rw [Dict.fetch_of_mem h.nodup (h.root_of_entry he)] at hsome
  simp at hsome

theorem Stage.moment {before after : List String} {name : String}
    (h : Stage g entrypoints visited parents queue) (hv : visited = before ++ name :: after) :
    ∃ early rest late, Stage g entrypoints before early (name :: rest) ∧
      parents = Parents.extend early name (g.fresh early name) ++ late ∧
      ∀ entry ∈ late, ∃ caller ∈ after, entry.2 = some caller := by
  -- back from the last visit, until the visit of the name itself is the last
  induction h generalizing after with
  | start => simp at hv
  | @visit visited queue parents last hs ih =>
    rcases List.eq_nil_or_concat after with rfl | ⟨after, other, rfl⟩
    · obtain ⟨rfl, rfl⟩ : visited = before ∧ last = name := by simpa using hv
      exact ⟨parents, queue, [], hs, by simp, by simp⟩
    · have hsplit : visited ++ [last] = (before ++ name :: after) ++ [other] := by simp [hv]
      obtain ⟨rfl, hlast⟩ := List.append_inj' hsplit rfl
      obtain rfl : last = other := by simpa using hlast
      obtain ⟨early, rest, late, hearly, heq, hlate⟩ := ih rfl
      refine ⟨early, rest, late ++ (g.fresh parents last).map fun callee => (callee, some last),
        hearly, ?_, ?_⟩
      · rw [← List.append_assoc, ← heq, Parents.extend]
      · intro entry he
        rcases List.mem_append.mp he with he | he
        · obtain ⟨caller, hc, hp⟩ := hlate entry he
          exact ⟨caller, by simp [hc], hp⟩
        · obtain ⟨callee, _, rfl⟩ := List.mem_map.mp he
          exact ⟨last, by simp, rfl⟩

theorem Stage.block {before after : List String} {parent : String}
    (h : Stage g entrypoints visited parents queue) (hv : visited = before ++ parent :: after) :
    ∃ early rest late, Stage g entrypoints before early (parent :: rest) ∧
      parents = Parents.extend early parent (g.fresh early parent) ++ late ∧
      (∀ entry ∈ early, entry.2 ≠ some parent) ∧ ∀ entry ∈ late, entry.2 ≠ some parent := by
  have hnodup : (before ++ parent :: after).Nodup := by
    rw [← hv]
    exact (List.nodup_append.mp (h.names_eq ▸ h.nodup)).1
  -- a name is visited once, so no other visit records it as a parent
  have honce : parent ∉ before ++ after := (List.nodup_cons.mp (List.nodup_middle.mp hnodup)).1
  obtain ⟨early, rest, late, hearly, heq, hlate⟩ := h.moment hv
  refine ⟨early, rest, late, hearly, heq, ?_, ?_⟩
  · rintro ⟨name, _⟩ he rfl
    exact honce (List.mem_append_left _ (hearly.caller_visited he))
  · rintro entry he hp
    obtain ⟨caller, hc, hcaller⟩ := hlate entry he
    obtain rfl : parent = caller := Option.some.inj (hp.symm.trans hcaller)
    exact honce (List.mem_append_right _ hc)

theorem Stage.discovery (h : Stage g entrypoints visited parents queue) {name parent : String}
    (hm : (name, some parent) ∈ parents) :
    ∃ before after early rest late, visited = before ++ parent :: after ∧
      Stage g entrypoints before early (parent :: rest) ∧
      parents = Parents.extend early parent (g.fresh early parent) ++ late ∧
      name ∈ g.fresh early parent := by
  obtain ⟨before, after, hv⟩ := List.append_of_mem (h.caller_visited hm)
  obtain ⟨early, rest, late, hearly, heq, hne, hnl⟩ := h.block hv
  refine ⟨before, after, early, rest, late, hv, hearly, heq, ?_⟩
  rw [heq, Parents.extend, List.append_assoc, List.mem_append, List.mem_append] at hm
  rcases hm with hm | hm | hm
  · exact absurd rfl (hne _ hm)
  · obtain ⟨callee, hc, heq⟩ := List.mem_map.mp hm
    obtain ⟨rfl, _⟩ := Prod.mk.inj heq
    exact hc
  · exact absurd rfl (hnl _ hm)

theorem Stage.siblings (h : Stage g entrypoints visited parents queue) (parent : String) :
    ∃ (early : Parents) (block : List String) (late : Parents),
      parents = early ++ block.map (fun name => (name, some parent)) ++ late ∧
      block.Pairwise (· < ·) ∧ ∀ entry ∈ early ++ late, entry.2 ≠ some parent := by
  by_cases hp : parent ∈ visited
  · obtain ⟨before, after, hv⟩ := List.append_of_mem hp
    obtain ⟨early, rest, late, _, heq, hne, hnl⟩ := h.block hv
    refine ⟨early, g.fresh early parent, late, heq, (Ascending.pairwise_ofList _).filter _, ?_⟩
    intro entry he
    rcases List.mem_append.mp he with he | he
    · exact hne entry he
    · exact hnl entry he
  · refine ⟨parents, [], [], by simp, .nil, ?_⟩
    rintro ⟨name, _⟩ he rfl
    exact hp (h.caller_visited (by simpa using he))

theorem prefix_names_of_eq {early late : Parents} {parent : String} {names : List String}
    (h : parents = Parents.extend early parent names ++ late) :
    Dict.names early <+: Dict.names parents :=
  ⟨names ++ Dict.names late, by simp [h, Parents.extend, Dict.names, Function.comp_def]⟩

theorem Stage.idxOf_parent_lt (h : Stage g entrypoints visited parents queue)
    {name parent : String} (hm : (name, some parent) ∈ parents) :
    (Dict.names parents).idxOf parent < (Dict.names parents).idxOf name := by
  obtain ⟨before, after, early, rest, late, _, hearly, heq, hfresh⟩ := h.discovery hm
  refine idxOf_lt_of_prefix (prefix_names_of_eq heq) ?_ (mem_fresh.mp hfresh).2
  simp [hearly.names_eq]

theorem Stage.idxOf_lt_of_earlier_caller (h : Stage g entrypoints visited parents queue)
    {name parent caller callee : String} (hm : (name, some parent) ∈ parents)
    (hlt : (Dict.names parents).idxOf caller < (Dict.names parents).idxOf parent)
    (hc : g.Calls caller callee) :
    (Dict.names parents).idxOf callee < (Dict.names parents).idxOf name := by
  obtain ⟨before, after, early, rest, late, hv, hearly, heq, hfresh⟩ := h.discovery hm
  have hthrough : before ++ [parent] <+: Dict.names parents :=
    ⟨after ++ queue, by simp [h.names_eq, hv]⟩
  have hparent := (hthrough.mem_iff_idxOf_lt_length parent).mp (by simp)
  have hbefore : before <+: Dict.names parents := (List.prefix_append before _).trans hthrough
  have hcaller : caller ∈ before := by
    rw [hbefore.mem_iff_idxOf_lt_length]
    rw [List.length_append, List.length_singleton] at hparent
    omega
  exact idxOf_lt_of_prefix (prefix_names_of_eq heq) (hearly.callee_mem hcaller hc)
    (mem_fresh.mp hfresh).2

theorem Stage.calls_of_parent (h : Stage g entrypoints visited parents queue)
    {name parent : String} (hm : (name, some parent) ∈ parents) : g.Calls parent name := by
  obtain ⟨_, _, _, _, _, _, _, _, hfresh⟩ := h.discovery hm
  exact (mem_fresh.mp hfresh).1

theorem Stage.idxOf_parent_le (h : Stage g entrypoints visited parents queue)
    {name parent caller : String} (hm : (name, some parent) ∈ parents)
    (hc : g.Calls caller name) :
    (Dict.names parents).idxOf parent ≤ (Dict.names parents).idxOf caller := by
  by_contra hlt
  exact lt_irrefl _ (h.idxOf_lt_of_earlier_caller hm (not_le.mp hlt) hc)

theorem Stage.find_caller (h : Stage g entrypoints visited parents queue) {name parent : String}
    (hm : (name, some parent) ∈ parents) :
    (Dict.names parents).find? (fun caller => g.Calls caller name) = some parent := by
  obtain ⟨before, after, early, rest, late, hv, hearly, _, hfresh⟩ := h.discovery hm
  rw [h.names_eq, hv, List.append_assoc, List.find?_append, List.find?_eq_none.mpr, Option.none_or,
    List.cons_append, List.find?_cons_of_pos]
  · simpa using (mem_fresh.mp hfresh).1
  · intro caller hcaller hc
    exact (mem_fresh.mp hfresh).2 (hearly.callee_mem hcaller (by simpa using hc))

theorem Stage.idxOf_root_lt (h : Stage g entrypoints visited parents queue)
    {root name parent : String} (hr : (root, none) ∈ parents)
    (hm : (name, some parent) ∈ parents) :
    (Dict.names parents).idxOf root < (Dict.names parents).idxOf name := by
  obtain ⟨late, heq, _⟩ := h.roots
  have hfront : Ascending.ofList entrypoints <+: Dict.names parents :=
    ⟨Dict.names late, by simp [heq, Dict.names, Function.comp_def]⟩
  refine idxOf_lt_of_prefix hfront (Ascending.mem_ofList.mpr (h.entry_of_root hr)) ?_
  rw [Ascending.mem_ofList]
  exact h.not_entry_of_parent hm

theorem Stage.exists_rise (h : Stage g entrypoints visited parents queue) {name : String}
    (hn : name ∈ Dict.names parents) : ∃ n, parents.Rise n name := by
  induction hi : (Dict.names parents).idxOf name using Nat.strong_induction_on
    generalizing name with
  | _ i ih =>
    obtain ⟨⟨_, parent?⟩, hm, rfl⟩ := List.mem_map.mp hn
    cases parent? with
    | none => exact ⟨0, .root (Dict.fetch_of_mem h.nodup hm)⟩
    | some parent =>
      have hp : parent ∈ Dict.names parents := by
        rw [h.names_eq]
        exact List.mem_append_left _ (h.caller_visited hm)
      obtain ⟨n, hr⟩ := ih _ (hi ▸ h.idxOf_parent_lt hm) hp rfl
      exact ⟨n + 1, .up (Dict.fetch_of_mem h.nodup hm) hr⟩

theorem Stage.rise_le_of_idxOf_le (h : Stage g entrypoints visited parents queue) {j k : Nat}
    {first last : String} (hfirst : parents.Rise j first) (hlast : parents.Rise k last)
    (hle : (Dict.names parents).idxOf first ≤ (Dict.names parents).idxOf last) : j ≤ k := by
  -- both names go up one step: the parent of the earlier one stands no later
  induction hlast generalizing j first with
  | root hroot =>
    cases hfirst with
    | root => exact le_rfl
    | up hup _ =>
      have hlt := h.idxOf_root_lt (Dict.mem_of_fetch hroot) (Dict.mem_of_fetch hup)
      omega
  | @up k last later hup _ ih =>
    cases hfirst with
    | root => exact Nat.zero_le _
    | @up j _ earlier hup' hr =>
      refine Nat.succ_le_succ (ih hr ?_)
      by_contra hlt
      have hback := h.idxOf_lt_of_earlier_caller (Dict.mem_of_fetch hup') (not_le.mp hlt)
        (h.calls_of_parent (Dict.mem_of_fetch hup))
      omega

theorem Stage.path_of_rise (h : Stage g entrypoints visited parents queue) {n : Nat}
    {name : String} (hr : parents.Rise n name) : ∃ entry ∈ entrypoints, g.Path n entry name := by
  induction hr with
  | @root name hroot => exact ⟨name, h.entry_of_root (Dict.mem_of_fetch hroot), .nil name⟩
  | up hup _ ih =>
    obtain ⟨entry, he, hp⟩ := ih
    exact ⟨entry, he, hp.snoc (h.calls_of_parent (Dict.mem_of_fetch hup))⟩

theorem Stage.rise_le_of_path (h : Stage g entrypoints visited parents []) {j n : Nat}
    {entry name : String} (he : entry ∈ entrypoints) (hp : g.Path n entry name)
    (hr : parents.Rise j name) : j ≤ n := by
  induction hp generalizing j with
  | nil name =>
    cases hr with
    | root => exact le_rfl
    | up hup _ => exact absurd he (h.not_entry_of_parent (Dict.mem_of_fetch hup))
  | @snoc n entry caller name hp hc ih =>
    cases hr with
    | root => exact Nat.zero_le _
    | @up j _ parent hup hr =>
      have hcaller : caller ∈ Dict.names parents :=
        h.closedFrom.mem_of_path (h.entry_mem he) hp
      obtain ⟨k, hk⟩ := h.exists_rise hcaller
      have hjk := h.rise_le_of_idxOf_le hr hk (h.idxOf_parent_le (Dict.mem_of_fetch hup) hc)
      exact Nat.succ_le_succ (hjk.trans (ih he hk))

theorem Stage.isDistance_of_rise (h : Stage g entrypoints visited parents []) {n : Nat}
    {name : String} (hr : parents.Rise n name) : g.IsDistance entrypoints name n := by
  refine ⟨h.path_of_rise hr, ?_⟩
  rintro k ⟨entry, he, hp⟩
  exact h.rise_le_of_path he hp hr

theorem Stage.rise_of_isDistance (h : Stage g entrypoints visited parents []) {n : Nat}
    {name : String} (hd : g.IsDistance entrypoints name n) : parents.Rise n name := by
  obtain ⟨entry, he, hp⟩ := hd.1
  obtain ⟨k, hk⟩ := h.exists_rise (h.closedFrom.mem_of_path (h.entry_mem he) hp)
  rwa [IsLeast.unique hd (h.isDistance_of_rise hk)]

structure IsShortestPathTree (g : CallGraph) (entrypoints : List String) (parents : Parents) :
    Prop where
  nodup : parents.names.Nodup
  mem_names : ∀ name, name ∈ parents.names ↔ g.Reaches entrypoints name
  roots : ∃ (starts : List String) (late : Parents),
    parents = starts.map (fun name => (name, none)) ++ late ∧ starts.Pairwise (· < ·) ∧
      (∀ name, name ∈ starts ↔ name ∈ entrypoints) ∧ ∀ entry ∈ late, entry.2 ≠ none
  first_caller : ∀ name parent, (name, some parent) ∈ parents →
    parents.names.find? (fun caller => g.Calls caller name) = some parent
  parent_before : ∀ name parent, (name, some parent) ∈ parents →
    parents.names.idxOf parent < parents.names.idxOf name
  rise : ∀ name ∈ parents.names, ∃ n, parents.Rise n name ∧ g.IsDistance entrypoints name n
  level_order : parents.names.Pairwise fun first last =>
    ∀ j k, g.IsDistance entrypoints first j → g.IsDistance entrypoints last k → j ≤ k
  parent_order : parents.Pairwise fun first last => ∀ p q, first.2 = some p → last.2 = some q →
    parents.names.idxOf p ≤ parents.names.idxOf q
  siblings : ∀ parent, ∃ (early : Parents) (block : List String) (late : Parents),
    parents = early ++ block.map (fun name => (name, some parent)) ++ late ∧
      block.Pairwise (· < ·) ∧ ∀ entry ∈ early ++ late, entry.2 ≠ some parent

theorem Stage.level_order (h : Stage g entrypoints visited parents []) :
    (Dict.names parents).Pairwise fun first last =>
      ∀ j k, g.IsDistance entrypoints first j → g.IsDistance entrypoints last k → j ≤ k := by
  refine (pairwise_idxOf_lt h.nodup).imp fun hlt j k hj hk => ?_
  exact h.rise_le_of_idxOf_le (h.rise_of_isDistance hj) (h.rise_of_isDistance hk) hlt.le

theorem Stage.parent_order (h : Stage g entrypoints visited parents queue) :
    parents.Pairwise fun first last => ∀ p q, first.2 = some p → last.2 = some q →
      (Dict.names parents).idxOf p ≤ (Dict.names parents).idxOf q := by
  refine (List.pairwise_map.mp (pairwise_idxOf_lt h.nodup)).imp_of_mem ?_
  rintro ⟨first, _⟩ ⟨last, _⟩ hfirst hlast hlt p q rfl rfl
  by_contra hback
  have hswap := h.idxOf_lt_of_earlier_caller hfirst (not_le.mp hback) (h.calls_of_parent hlast)
  exact lt_asymm hlt hswap

theorem Stage.isShortestPathTree (h : Stage g entrypoints visited parents []) :
    g.IsShortestPathTree entrypoints parents where
  nodup := h.nodup
  mem_names _ := ⟨h.reaches, h.closedFrom.mem_of_reaches⟩
  roots := by
    obtain ⟨late, heq, hlate⟩ := h.roots
    refine ⟨_, late, heq, Ascending.pairwise_ofList _, fun _ => Ascending.mem_ofList, ?_⟩
    intro entry he hnone
    obtain ⟨caller, _, hp⟩ := hlate entry he
    simp [hnone] at hp
  first_caller _ _ := h.find_caller
  parent_before _ _ := h.idxOf_parent_lt
  rise name hn := by
    obtain ⟨n, hr⟩ := h.exists_rise hn
    exact ⟨n, hr, h.isDistance_of_rise hr⟩
  level_order := h.level_order
  parent_order := h.parent_order
  siblings := h.siblings

theorem search_congr {g h : CallGraph} (hc : ∀ name, h.callees name = g.callees name)
    (parents : Parents) (queue : List String) :
    h.search parents queue = g.search parents queue := by
  fun_induction search g parents queue with
  | case1 parents => rw [search]
  | case2 parents name queue new =>
    rename_i ih
    have hfresh : h.fresh parents name = g.fresh parents name := by rw [fresh, fresh, hc]
    rw [search, hfresh]
    exact ih

theorem reach_congr {g h : CallGraph} {entrypoints others : List String}
    (hc : ∀ caller callee, h.Calls caller callee ↔ g.Calls caller callee)
    (he : ∀ name, name ∈ others ↔ name ∈ entrypoints) :
    h.reach others = g.reach entrypoints := by
  have hcallees : ∀ name, h.callees name = g.callees name :=
    fun name => Ascending.ofList_congr (hc name)
  rw [reach, reach, Ascending.ofList_congr he]
  exact search_congr hcallees _ _

theorem reach_isShortestPathTree (g : CallGraph) (entrypoints : List String) :
    g.IsShortestPathTree entrypoints (g.reach entrypoints) ∧
      ∀ (h : CallGraph) (others : List String),
        (∀ caller callee, h.Calls caller callee ↔ g.Calls caller callee) →
        (∀ name, name ∈ others ↔ name ∈ entrypoints) →
        h.reach others = g.reach entrypoints :=
  ⟨(stage_reach g entrypoints).isShortestPathTree, fun _ _ hc he => reach_congr hc he⟩

def looped : CallGraph :=
  ⟨[("a", ["c", "b"]), ("b", ["d", "a"]), ("c", ["d"])], []⟩

def loopedReordered : CallGraph :=
  ⟨[("c", ["d", "d"]), ("b", ["a", "d"]), ("a", ["b", "c", "b"])], []⟩

theorem calls_loopedReordered_iff (caller callee : String) :
    loopedReordered.Calls caller callee ↔ looped.Calls caller callee := by
  simp only [Calls, looped, loopedReordered, Dict.fetch_cons]
  by_cases ha : caller = "a"
  · subst ha
    simp [or_comm]
  · by_cases hb : caller = "b"
    · subst hb
      simp [or_comm]
    · by_cases hc : caller = "c" <;> simp [ha, hb, hc]

theorem reach_isShortestPathTree_looped :
    (∀ caller callee, loopedReordered.Calls caller callee ↔ looped.Calls caller callee) ∧
      (∀ name, name ∈ ["e", "a", "e"] ↔ name ∈ ["a", "e"]) ∧
      looped.IsShortestPathTree ["a", "e"] (looped.reach ["a", "e"]) ∧
      loopedReordered.reach ["e", "a", "e"] = looped.reach ["a", "e"] := by
  have hentries : ∀ name, name ∈ ["e", "a", "e"] ↔ name ∈ ["a", "e"] := by
    intro name
    simp only [List.mem_cons, List.not_mem_nil, or_false]
    tauto
  obtain ⟨htree, hsame⟩ := reach_isShortestPathTree looped ["a", "e"]
  exact ⟨calls_loopedReordered_iff, hentries, htree, hsame _ _ calls_loopedReordered_iff hentries⟩

end DiffReach.CallGraph
