import DiffReach.Proofs.CallGraph.ShortestPathTree
import Mathlib.Data.List.Chain

namespace DiffReach.CallGraph

variable {g : CallGraph} {entrypoints visited : List String} {parents : Parents} {name : String}

theorem ancestry_root (h : name ≠ "") (hf : parents.fetch name = some none) (depth : Nat) :
    parents.ancestry (depth + 1) name = [name] := by
  rw [Parents.ancestry, if_neg h, hf]

theorem ancestry_up {parent : String} (h : name ≠ "") (hf : parents.fetch name = some (some parent))
    (depth : Nat) : parents.ancestry (depth + 1) name = name :: parents.ancestry depth parent := by
  rw [Parents.ancestry, if_neg h, hf]

theorem head_ancestry (h : name ≠ "") (depth : Nat) :
    (parents.ancestry (depth + 1) name).head? = some name := by
  rw [Parents.ancestry, if_neg h, List.head?_cons]

theorem head_of_mem_head_ancestry {depth : Nat} {other : String}
    (h : other ∈ (parents.ancestry depth name).head?) : other = name := by
  cases depth with
  | zero => simp [Parents.ancestry] at h
  | succ depth =>
    rw [Parents.ancestry] at h
    split at h
    · simp at h
    · simpa [eq_comm] using h

theorem isChain_ancestry (parents : Parents) (depth : Nat) (name : String) :
    (parents.ancestry depth name).IsChain fun child parent =>
      parents.fetch child = some (some parent) := by
  induction depth generalizing name with
  | zero => exact .nil
  | succ depth ih =>
    rw [Parents.ancestry]
    split
    · exact .nil
    · split
      · rename_i parent hf
        refine (ih parent).cons fun other hother => ?_
        rwa [head_of_mem_head_ancestry hother]
      · exact .singleton _

theorem length_ancestry
    (hne : ∀ child parent, parents.fetch child = some (some parent) → parent ≠ "")
    {d : Nat} (hr : parents.Rise d name) (h : name ≠ "") (depth : Nat) :
    (parents.ancestry depth name).length = min (d + 1) depth := by
  induction hr generalizing depth with
  | root hf =>
    cases depth with
    | zero => rfl
    | succ depth =>
      rw [ancestry_root h hf, List.length_singleton]
      omega
  | up hf _ ih =>
    cases depth with
    | zero => rfl
    | succ depth =>
      rw [ancestry_up h hf, List.length_cons, ih (hne _ _ hf)]
      omega

theorem rise_of_getElem?_ancestry {d depth i : Nat} {other : String} (hr : parents.Rise d name)
    (hi : (parents.ancestry depth name)[i]? = some other) : parents.Rise (d - i) other := by
  induction depth generalizing d i name with
  | zero => simp [Parents.ancestry] at hi
  | succ depth ih =>
    by_cases h : name = ""
    · simp [Parents.ancestry, h] at hi
    · cases hr with
      | root hf =>
        rw [ancestry_root h hf] at hi
        cases i with
        | zero =>
          obtain rfl : name = other := by simpa using hi
          exact .root hf
        | succ i => simp at hi
      | up hf hr =>
        rw [ancestry_up h hf] at hi
        cases i with
        | zero =>
          obtain rfl : name = other := by simpa using hi
          exact .up hf hr
        | succ i =>
          rw [Nat.add_sub_add_right]
          exact ih hr (by simpa using hi)

/-- A chain that shows how a function is reached: the calls on a shortest path to it, the last ones
if the path is longer than the chain may be, with the files of the functions. -/
structure IsCertificate (g : CallGraph) (entrypoints : List String) (maxDepth : Nat)
    (function : String) (chain : List Link) : Prop where
  ends : chain.getLast?.map Link.function = some function
  calls : (chain.map Link.function).IsChain g.Calls
  files : ∀ link ∈ chain, link.file = g.definedIn.fetch link.function
  shortest : ∃ d, g.IsDistance entrypoints function d ∧ chain.length = min (d + 1) maxDepth ∧
    (∀ i link, chain.reverse[i]? = some link → g.IsDistance entrypoints link.function (d - i)) ∧
    ∀ link, chain.head? = some link → (link.function ∈ entrypoints ↔ d < maxDepth)

theorem isDistance_zero_iff : g.IsDistance entrypoints name 0 ↔ name ∈ entrypoints := by
  constructor
  · rintro ⟨⟨entry, he, hp⟩, _⟩
    cases hp
    exact he
  · intro he
    exact ⟨⟨name, he, .nil name⟩, fun _ _ => Nat.zero_le _⟩

theorem Stage.distance_of_getElem?_chain (h : Stage g entrypoints visited parents [])
    {definedIn : Dict String} {maxDepth d i : Nat} {link : Link}
    (hd : g.IsDistance entrypoints name d)
    (hi : (parents.chain definedIn maxDepth name).reverse[i]? = some link) :
    g.IsDistance entrypoints link.function (d - i) := by
  rw [Parents.chain, List.reverse_reverse, Int.toNat_natCast, List.getElem?_map,
    Option.map_eq_some_iff] at hi
  obtain ⟨other, hother, rfl⟩ := hi
  exact h.isDistance_of_rise (rise_of_getElem?_ancestry (h.rise_of_isDistance hd) hother)

theorem Stage.isCertificate_chain (h : Stage g entrypoints visited parents [])
    (hne : ∀ caller callee, g.Calls caller callee → caller ≠ "") {function : String}
    (hf : function ≠ "") (hr : function ∈ Dict.names parents) {maxDepth : Nat}
    (hpos : 0 < maxDepth) :
    g.IsCertificate entrypoints maxDepth function
      (parents.chain g.definedIn maxDepth function) := by
  have hup : ∀ child parent, parents.fetch child = some (some parent) → g.Calls parent child :=
    fun _ _ hc => h.calls_of_parent (Dict.mem_of_fetch hc)
  have hfunctions : (parents.chain g.definedIn maxDepth function).map Link.function =
      (parents.ancestry maxDepth function).reverse := by
    simp [Parents.chain, Function.comp_def]
  obtain ⟨d, hrise⟩ := h.exists_rise hr
  have hd := h.isDistance_of_rise hrise
  have hlength : (parents.chain g.definedIn maxDepth function).length = min (d + 1) maxDepth := by
    rw [← length_ancestry (fun _ _ hc => hne _ _ (hup _ _ hc)) hrise hf maxDepth]
    simp [Parents.chain]
  refine ⟨?_, ?_, ?_, d, hd, hlength, fun _ _ => h.distance_of_getElem?_chain hd, ?_⟩
  · obtain ⟨depth, rfl⟩ := Nat.exists_eq_succ_of_ne_zero hpos.ne'
    rw [← List.getLast?_map, hfunctions, List.getLast?_reverse]
    exact head_ancestry hf depth
  · rw [hfunctions, List.isChain_reverse]
    exact (isChain_ancestry parents maxDepth function).imp hup
  · intro link hlink
    obtain ⟨other, _, rfl⟩ := List.mem_map.mp (List.mem_reverse.mp hlink)
    rfl
  · intro link hlink
    -- the first link stands as deep as the chain is long, at distance zero if the chain is whole
    have hfirst : (parents.chain g.definedIn maxDepth function).reverse[min (d + 1) maxDepth - 1]? =
        some link := by
      rw [← hlength, ← hlink, List.head?_eq_getElem?, List.getElem?_reverse (by omega)]
      congr 1
      omega
    have hdist := h.distance_of_getElem?_chain hd hfirst
    rw [← isDistance_zero_iff]
    constructor
    · intro hzero
      have heq := IsLeast.unique hdist hzero
      omega
    · intro hlt
      rwa [show d - (min (d + 1) maxDepth - 1) = 0 by omega] at hdist

end DiffReach.CallGraph
