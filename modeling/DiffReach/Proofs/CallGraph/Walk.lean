import DiffReach.Proofs.CallGraph.Chain
import Mathlib.Data.ENat.Lattice
import Mathlib.Data.Fintype.Pigeonhole
import Mathlib.Data.Set.Finite.List

namespace DiffReach.CallGraph

namespace Parents

def above (parents : Parents) (name : String) : Option String :=
  (parents.fetch name).join.filter (· ≠ "")

def walk (parents : Parents) (name : String) : Nat → Option String
  | 0 => some name
  | n + 1 => (parents.walk name n).bind parents.above

/-- How many names the walk meets; there is no end to them on a cycle. -/
noncomputable def walkLength (parents : Parents) (name : String) : ℕ∞ :=
  ⨅ (n : ℕ) (_ : parents.walk name n = none), (n : ℕ∞)

variable {parents : Parents} {name : String}

theorem walk_succ (parents : Parents) (name : String) (n : Nat) :
    parents.walk name (n + 1) = (parents.above name).bind fun parent => parents.walk parent n := by
  induction n with
  | zero =>
    change parents.above name = _
    cases parents.above name <;> rfl
  | succ n ih =>
    rw [walk, ih]
    cases parents.above name <;> rfl

theorem walk_eq_none_of_le {m n : Nat} (hle : m ≤ n) (h : parents.walk name m = none) :
    parents.walk name n = none := by
  induction hle with
  | refl => exact h
  | step _ ih => rw [walk, ih, Option.bind_none]

theorem lt_walkLength_iff {n : Nat} :
    (n : ℕ∞) < parents.walkLength name ↔ parents.walk name n ≠ none := by
  constructor
  · intro hlt hnone
    exact absurd (iInf₂_le n hnone) (not_le.mpr hlt)
  · intro hsome
    rw [← ENat.add_one_le_iff (ENat.natCast_ne_top n)]
    refine le_iInf₂ fun m hm => ?_
    have hnm : n < m := not_le.mp fun hle => hsome (walk_eq_none_of_le hle hm)
    exact_mod_cast hnm

theorem walk_add_of_eq {i j : Nat} (h : parents.walk name i = parents.walk name j) (n : Nat) :
    parents.walk name (i + n) = parents.walk name (j + n) := by
  induction n with
  | zero => exact h
  | succ n ih =>
    change (parents.walk name (i + n)).bind _ = (parents.walk name (j + n)).bind _
    rw [ih]

theorem walk_ne_none_of_cycle {i j : Nat} (hlt : i < j)
    (h : parents.walk name i = parents.walk name j) (hsome : parents.walk name i ≠ none) (n : Nat) :
    parents.walk name n ≠ none := by
  -- From the second time on, a name stands where it stood one round earlier.
  induction n using Nat.strong_induction_on with
  | _ n ih =>
    by_cases hle : n ≤ j
    · exact fun hnone => hsome (h.trans (walk_eq_none_of_le hle hnone))
    · have hround := walk_add_of_eq h (n - j)
      rw [show j + (n - j) = n by omega] at hround
      rw [← hround]
      exact ih (i + (n - j)) (by omega)

theorem mem_names_of_above {parent : String} (h : parents.above name = some parent) :
    name ∈ Dict.names parents := by
  rw [← Dict.holds_iff, Dict.holds]
  cases hf : parents.lookup name with
  | none => simp [above, Dict.fetch, hf] at h
  | some found => rfl

theorem mem_names_of_walk {n : Nat} {other : String} (h : parents.walk name n = some other)
    (hnext : parents.walk name (n + 1) ≠ none) : other ∈ Dict.names parents := by
  rw [walk, h, Option.bind_some] at hnext
  obtain ⟨parent, hparent⟩ := Option.ne_none_iff_exists'.mp hnext
  exact mem_names_of_above hparent

theorem walkLength_eq_top_iff : parents.walkLength name = ⊤ ↔
    ∃ i j, i < j ∧ parents.walk name i = parents.walk name j ∧ parents.walk name i ≠ none := by
  constructor
  · intro htop
    have hsome (n : Nat) : parents.walk name n ≠ none :=
      lt_walkLength_iff.mp (ENat.eq_top_iff_forall_gt.mp htop n)
    choose other hother using fun n => Option.ne_none_iff_exists'.mp (hsome n)
    -- Every name that the walk goes on from is in the table, which has finitely many.
    have hfinite : Finite {found // found ∈ Dict.names parents} :=
      (List.finite_toSet (Dict.names parents)).to_subtype
    obtain ⟨i, j, hne, heq⟩ := Finite.exists_ne_map_eq_of_infinite
      fun n => (⟨other n, mem_names_of_walk (hother n) (hsome (n + 1))⟩ :
        {found // found ∈ Dict.names parents})
    have hsame : parents.walk name i = parents.walk name j := by
      rw [hother, hother]
      exact congrArg (fun found => some found.val) heq
    rcases Nat.lt_or_gt_of_ne hne with hlt | hlt
    · exact ⟨i, j, hlt, hsame, hsome i⟩
    · exact ⟨j, i, hlt, hsame.symm, hsome j⟩
  · rintro ⟨i, j, hlt, h, hsome⟩
    exact ENat.eq_top_iff_forall_gt.mpr fun n =>
      lt_walkLength_iff.mpr (walk_ne_none_of_cycle hlt h hsome n)

theorem ancestry_empty (parents : Parents) (depth : Nat) : parents.ancestry depth "" = [] := by
  cases depth with
  | zero => rfl
  | succ depth => rw [ancestry, if_pos rfl]

theorem ancestry_succ (h : name ≠ "") (depth : Nat) : parents.ancestry (depth + 1) name =
    name :: ((parents.above name).map (parents.ancestry depth)).getD [] := by
  rw [ancestry, if_neg h, above]
  split
  · rename_i parent hf
    rw [hf]
    by_cases hempty : parent = ""
    · subst hempty
      rw [ancestry_empty]
      rfl
    · rw [Option.join_some, Option.filter_some_pos (by simpa using hempty)]
      rfl
  · rename_i hf
    cases hfound : parents.fetch name with
    | none => rfl
    | some parent? =>
      cases parent? with
      | none => rfl
      | some parent => exact absurd hfound (hf parent)

theorem above_ne_empty {parent : String} (h : parents.above name = some parent) : parent ≠ "" := by
  simpa using (Option.filter_eq_some_iff.mp h).2

theorem getElem?_ancestry (h : name ≠ "") (depth n : Nat) :
    (parents.ancestry depth name)[n]? = if n < depth then parents.walk name n else none := by
  induction depth generalizing name n with
  | zero => rfl
  | succ depth ih =>
    rw [ancestry_succ h]
    cases n with
    | zero => rfl
    | succ n =>
      rw [List.getElem?_cons_succ, walk_succ]
      cases habove : parents.above name with
      | none => simp
      | some parent =>
        have hparent := ih (above_ne_empty habove) n
        simpa using hparent

theorem length_ancestry_eq (h : name ≠ "") (depth : Nat) :
    ((parents.ancestry depth name).length : ℕ∞) = min (depth : ℕ∞) (parents.walkLength name) := by
  have hlt (n : Nat) : n < (parents.ancestry depth name).length ↔
      (n : ℕ∞) < min (depth : ℕ∞) (parents.walkLength name) := by
    rw [← not_le, ← List.getElem?_eq_none_iff, getElem?_ancestry h, lt_min_iff, lt_walkLength_iff,
      Nat.cast_lt]
    split <;> simp [*]
  refine ENat.eq_of_forall_natCast_le_iff fun n => ?_
  cases n with
  | zero => simp
  | succ n =>
    rw [Nat.cast_succ, ENat.add_one_le_iff (ENat.natCast_ne_top n),
      ENat.add_one_le_iff (ENat.natCast_ne_top n), ← hlt, Nat.cast_lt]

theorem ancestry_prefix_of_le {depth deeper : Nat} (hle : depth ≤ deeper) (name : String) :
    parents.ancestry depth name <+: parents.ancestry deeper name := by
  induction depth generalizing deeper name with
  | zero => exact List.nil_prefix
  | succ depth ih =>
    obtain ⟨deeper, rfl⟩ := Nat.exists_eq_add_of_lt hle
    by_cases h : name = ""
    · subst h
      rw [ancestry_empty, ancestry_empty]
    · rw [ancestry_succ h, ancestry_succ h, List.cons_prefix_cons]
      refine ⟨rfl, ?_⟩
      cases parents.above name with
      | none => exact List.prefix_rfl
      | some parent => exact ih (Nat.le_add_right depth deeper) parent

theorem map_function_chain (parents : Parents) (definedIn : Dict String) (maxDepth : Int)
    (function : String) : (parents.chain definedIn maxDepth function).map Link.function =
      (parents.ancestry maxDepth.toNat function).reverse := by
  simp [chain, Function.comp_def]

theorem chain_suffix {less maxDepth : Int} (hle : less ≤ maxDepth) (definedIn : Dict String)
    (function : String) :
    parents.chain definedIn less function <:+ parents.chain definedIn maxDepth function := by
  rw [chain, chain, List.reverse_suffix]
  exact (ancestry_prefix_of_le (by omega) function).map _

theorem chainWithin_int (parents : Parents) (definedIn : Dict String) (maxDepth : Int)
    {function : String} (h : function ≠ "") :
    parents.chainWithin definedIn (.int maxDepth) function =
      .ok (parents.chain definedIn maxDepth function) := by
  rw [chainWithin, if_neg h]
  rfl

/-- A chain is the beginning of the walk up from a function, turned around: all of the walk, or as
much of it as may be. -/
structure Follows (parents : Parents) (definedIn : Dict String) (maxDepth : Int)
    (function : String) (chain : List Link) : Prop where
  length : (chain.length : ℕ∞) = min (maxDepth.toNat : ℕ∞) (parents.walkLength function)
  names : ∀ n < chain.length, chain.reverse[n]?.map Link.function = parents.walk function n
  files : ∀ link ∈ chain, link.file = definedIn.fetch link.function

theorem follows_chain (parents : Parents) (definedIn : Dict String) (maxDepth : Int)
    {function : String} (h : function ≠ "") :
    parents.Follows definedIn maxDepth function (parents.chain definedIn maxDepth function) where
  length := by
    rw [← length_ancestry_eq h]
    simp [chain]
  names := by
    intro n hn
    have hlength : n < (parents.ancestry maxDepth.toNat function).length := by
      simpa [chain] using hn
    have hwalk : (parents.ancestry maxDepth.toNat function)[n]? = _ :=
      getElem?_ancestry h maxDepth.toNat n
    have hdepth : n < maxDepth.toNat := by
      by_contra hnot
      rw [if_neg hnot, List.getElem?_eq_none_iff] at hwalk
      omega
    rw [if_pos hdepth] at hwalk
    rw [← hwalk, ← List.getElem?_map, List.map_reverse, map_function_chain, List.reverse_reverse]
  files := by
    intro link hlink
    obtain ⟨other, _, rfl⟩ := List.mem_map.mp (List.mem_reverse.mp hlink)
    rfl

end Parents

section Search

variable {g : CallGraph} {entrypoints visited queue : List String} {parents : Parents}
  {name : String}

theorem Stage.nodup_ancestry (h : Stage g entrypoints visited parents queue) (depth : Nat)
    (name : String) : (parents.ancestry depth name).Nodup := by
  -- Parents are found before their children, so the places in the order of discovery go down.
  have hdown : ((parents.ancestry depth name).map (Dict.names parents).idxOf).IsChain (· > ·) := by
    rw [List.isChain_map]
    exact (isChain_ancestry parents depth name).imp fun _ _ hf =>
      h.idxOf_parent_lt (Dict.mem_of_fetch hf)
  have hne : ((parents.ancestry depth name).map (Dict.names parents).idxOf).Nodup :=
    hdown.pairwise.imp ne_of_gt
  exact hne.of_map

theorem Stage.walkLength_ne_top (h : Stage g entrypoints visited parents queue)
    (hname : name ≠ "") :
    parents.walkLength name ≠ ⊤ := by
  rw [ne_eq, Parents.walkLength_eq_top_iff]
  rintro ⟨i, j, hlt, heq, hsome⟩
  have hplace (n : Nat) (hn : n ≤ j) :
      (parents.ancestry (j + 1) name)[n]? = parents.walk name n := by
    rw [Parents.getElem?_ancestry hname, if_pos (by omega)]
  have hi : i < (parents.ancestry (j + 1) name).length := by
    rw [← not_le, ← List.getElem?_eq_none_iff, hplace i hlt.le]
    exact hsome
  have hsame : i = j := (List.getElem?_inj hi (h.nodup_ancestry (j + 1) name)).mp
    (by rw [hplace i hlt.le, hplace j le_rfl, heq])
  omega

theorem Stage.parent_ne_empty (h : Stage g entrypoints visited parents queue)
    (hne : ∀ caller callee, g.Calls caller callee → caller ≠ "") {child parent : String}
    (hf : parents.fetch child = some (some parent)) : parent ≠ "" :=
  hne _ _ (h.calls_of_parent (Dict.mem_of_fetch hf))

theorem walkLength_of_rise
    (hne : ∀ child parent, parents.fetch child = some (some parent) → parent ≠ "") {d : Nat}
    (hr : parents.Rise d name) (h : name ≠ "") : parents.walkLength name = (d + 1 : ℕ) := by
  have hlength : ((parents.ancestry (d + 2) name).length : ℕ∞) = _ :=
    Parents.length_ancestry_eq h (d + 2)
  rw [length_ancestry hne hr h, Nat.min_eq_left (by omega)] at hlength
  rcases le_total ((d + 2 : ℕ) : ℕ∞) (parents.walkLength name) with hle | hle
  · rw [min_eq_left hle, Nat.cast_inj] at hlength
    omega
  · rw [min_eq_right hle] at hlength
    exact hlength.symm

theorem Stage.getLast?_ancestry (h : Stage g entrypoints visited parents queue)
    (hne : ∀ caller callee, g.Calls caller callee → caller ≠ "") (hname : name ≠ "")
    (hreached : name ∈ Dict.names parents) {depth : Nat}
    (hdepth : parents.walkLength name ≤ depth) :
    ∃ entry ∈ entrypoints, (parents.ancestry depth name).getLast? = some entry := by
  have hup : ∀ child parent, parents.fetch child = some (some parent) → parent ≠ "" :=
    fun _ _ => h.parent_ne_empty hne
  obtain ⟨d, hr⟩ := h.exists_rise hreached
  rw [walkLength_of_rise hup hr hname, Nat.cast_le] at hdepth
  have hlength : (parents.ancestry depth name).length = d + 1 := by
    rw [length_ancestry hup hr hname, Nat.min_eq_left hdepth]
  have hlast : d < (parents.ancestry depth name).length := by omega
  have hrise := rise_of_getElem?_ancestry hr (List.getElem?_eq_getElem hlast)
  rw [Nat.sub_self] at hrise
  cases hrise with
  | root hf =>
    refine ⟨_, h.entry_of_root (Dict.mem_of_fetch hf), ?_⟩
    rw [List.getLast?_eq_getElem?, hlength, Nat.add_sub_cancel, List.getElem?_eq_getElem hlast]

theorem ancestry_of_notMem (hname : name ≠ "") (h : name ∉ Dict.names parents) (depth : Nat) :
    parents.ancestry (depth + 1) name = [name] := by
  rw [Parents.ancestry_succ hname, Parents.above, Dict.fetch_eq_none_iff.mpr h]
  rfl

end Search

theorem chainWithin_follows {function : String} (h : function ≠ "") :
    (∀ parents : Parents,
      (parents.walkLength function = ⊤ ↔ ∃ i j, i < j ∧
        parents.walk function i = parents.walk function j ∧ parents.walk function i ≠ none) ∧
      ∀ (definedIn : Dict String) (maxDepth : Int), ∃ chain,
        parents.chainWithin definedIn (.int maxDepth) function = .ok chain ∧
        parents.Follows definedIn maxDepth function chain ∧
        ∀ less ≤ maxDepth, ∃ shorter,
          parents.chainWithin definedIn (.int less) function = .ok shorter ∧ shorter <:+ chain) ∧
    ∀ (g : CallGraph) (entrypoints : List String),
      (∀ caller callee, g.Calls caller callee → caller ≠ "") →
      (g.reach entrypoints).walkLength function ≠ ⊤ ∧
      ∀ (definedIn : Dict String) (maxDepth : Int), ∃ chain,
        (g.reach entrypoints).chainWithin definedIn (.int maxDepth) function = .ok chain ∧
        (chain.map Link.function).Nodup ∧
        (g.Reaches entrypoints function →
          (g.reach entrypoints).walkLength function ≤ maxDepth.toNat →
          ∃ entry ∈ entrypoints, (chain.map Link.function).head? = some entry) ∧
        (¬ g.Reaches entrypoints function → 0 < maxDepth →
          chain.map Link.function = [function]) := by
  refine ⟨fun parents => ⟨Parents.walkLength_eq_top_iff, fun definedIn maxDepth =>
    ⟨_, parents.chainWithin_int definedIn maxDepth h, parents.follows_chain definedIn maxDepth h,
      fun less hle => ⟨_, parents.chainWithin_int definedIn less h,
        Parents.chain_suffix hle definedIn function⟩⟩⟩, ?_⟩
  intro g entrypoints hne
  have hs := stage_reach g entrypoints
  refine ⟨hs.walkLength_ne_top h, fun definedIn maxDepth =>
    ⟨_, Parents.chainWithin_int _ definedIn maxDepth h, ?_⟩⟩
  rw [Parents.map_function_chain, List.head?_reverse, ← mem_names_reach]
  refine ⟨List.nodup_reverse.mpr (hs.nodup_ancestry _ function),
    fun hreached hdepth => hs.getLast?_ancestry hne h hreached hdepth, ?_⟩
  intro hnot hpos
  obtain ⟨depth, hdepth⟩ := Nat.exists_eq_succ_of_ne_zero (by omega : maxDepth.toNat ≠ 0)
  rw [hdepth, ancestry_of_notMem h hnot, List.reverse_singleton]

def mutualParents : Parents :=
  [("a", some "b"), ("b", some "a")]

theorem chainWithin_follows_looped :
    "d" ≠ "" ∧ "a" ≠ "" ∧ mutualParents.walkLength "a" = ⊤ ∧
    mutualParents.chainWithin [] (.int 3) "a" = .ok [⟨"a", none⟩, ⟨"b", none⟩, ⟨"a", none⟩] ∧
    (∃ shorter, mutualParents.chainWithin [] (.int 2) "a" = .ok shorter ∧
      shorter <:+ [⟨"a", none⟩, ⟨"b", none⟩, ⟨"a", none⟩]) ∧
    (∀ caller callee, looped.Calls caller callee → caller ≠ "") ∧
    looped.Reaches ["a"] "d" ∧
    ∃ maxDepth : Int, (looped.reach ["a"]).walkLength "d" ≤ maxDepth.toNat ∧
      ∃ chain, (looped.reach ["a"]).chainWithin [] (.int maxDepth) "d" = .ok chain ∧
        (chain.map Link.function).Nodup ∧
        ∃ entry ∈ ["a"], (chain.map Link.function).head? = some entry := by
  have hne : ∀ caller callee, looped.Calls caller callee → caller ≠ "" := by
    rintro caller callee hcalls rfl
    exact List.not_mem_nil hcalls
  have hreaches : looped.Reaches ["a"] "d" :=
    ((reaches_entry (List.mem_singleton_self "a")).snoc (by decide : looped.Calls "a" "b")).snoc
      (by decide)
  have ha : "a" ≠ "" := by decide
  have hd : "d" ≠ "" := by decide
  obtain ⟨htop, hchains⟩ := (chainWithin_follows ha).1 mutualParents
  obtain ⟨chain, hchain, -, hshorter⟩ := hchains [] 3
  obtain rfl : [⟨"a", none⟩, ⟨"b", none⟩, ⟨"a", none⟩] = chain := Except.ok.inj hchain
  obtain ⟨hfinite, hsearch⟩ := (chainWithin_follows hd).2 looped ["a"] hne
  have hdepth : (looped.reach ["a"]).walkLength "d" ≤
      (((looped.reach ["a"]).walkLength "d").toNat : Int).toNat := by
    rw [Int.toNat_natCast, ENat.natCast_toNat hfinite]
  obtain ⟨deep, hdeep, hnodup, hentry, -⟩ := hsearch [] _
  exact ⟨hd, ha, htop.mpr ⟨0, 2, by decide, by decide, by decide⟩, hchain,
    hshorter 2 (by decide), hne, hreaches, _, hdepth, deep, hdeep, hnodup, hentry hreaches hdepth⟩

end DiffReach.CallGraph
