import DiffReach.Source.Extraction

namespace DiffReach

structure CallGraph where
  edges : Dict (List String)
  definedIn : Dict String

namespace CallGraph

def callees (g : CallGraph) (name : String) : List String :=
  Ascending.ofList ((g.edges.fetch name).getD [])

def ofExtraction (x : Source.Extractor) (found : Source.Extraction) : CallGraph where
  edges := found.bodies.mapValues (Source.calls x.stoplist)
  definedIn := found.definedIn

/-- The names reached so far with their parents, in order of discovery. -/
abbrev Parents := Dict (Option String)

def fresh (g : CallGraph) (parents : Parents) (name : String) : List String :=
  (g.callees name).filter fun callee => !parents.holds callee

def Parents.extend (parents : Parents) (parent : String) (names : List String) : Parents :=
  parents ++ names.map fun name => (name, some parent)

def targets (g : CallGraph) : List String :=
  g.edges.flatMap fun entry => entry.2

def unreached (g : CallGraph) (parents : Parents) : List String :=
  g.targets.filter fun name => !parents.holds name

theorem mem_targets_of_mem_callees {g : CallGraph} {name callee : String}
    (h : callee ∈ g.callees name) : callee ∈ g.targets := by
  have h := Ascending.mem_of_mem_ofList h
  cases he : g.edges.fetch name with
  | none => simp [he] at h
  | some found =>
    rw [he] at h
    exact List.mem_flatMap.mpr ⟨_, Dict.mem_of_fetch he, h⟩

theorem holds_extend (parents : Parents) (parent : String) (names : List String) (name : String) :
    (parents.extend parent names).holds name = (parents.holds name || names.elem name) := by
  rw [Bool.eq_iff_iff, Bool.or_eq_true, Dict.holds_iff, Dict.holds_iff]
  simp [Parents.extend, Dict.names]

theorem length_unreached_extend_lt {g : CallGraph} {parents : Parents} {name : String}
    (h : g.fresh parents name ≠ []) :
    (g.unreached (parents.extend name (g.fresh parents name))).length
      < (g.unreached parents).length := by
  have hsub : g.unreached (parents.extend name (g.fresh parents name))
      = (g.unreached parents).filter fun other => !(g.fresh parents name).elem other := by
    simp [unreached, holds_extend, List.filter_filter, Bool.and_comm]
  obtain ⟨callee, hmem⟩ := List.exists_mem_of_ne_nil _ h
  have hcallee := List.mem_filter.mp hmem
  rw [hsub, List.length_filter_lt_length_iff_exists]
  refine ⟨callee, List.mem_filter.mpr ⟨mem_targets_of_mem_callees hcallee.1, hcallee.2⟩, ?_⟩
  simpa using hmem

def search (g : CallGraph) (parents : Parents) : List String → Parents
  | [] => parents
  | name :: queue =>
      let new := g.fresh parents name
      search g (parents.extend name new) (queue ++ new)
termination_by queue => ((g.unreached parents).length, queue.length)
decreasing_by
  by_cases h : g.fresh parents name = []
  · simp [h, Parents.extend, Prod.lex_def]
  · exact Prod.Lex.left _ _ (length_unreached_extend_lt h)

/-- The breadth-first search from all entrypoints at once, which have no parents. The callees of a
name are visited in ascending order. -/
def reach (g : CallGraph) (entrypoints : List String) : Parents :=
  let starts := Ascending.ofList entrypoints
  g.search (starts.map fun name => (name, none)) starts

def Parents.reachable (parents : Parents) : List String :=
  Ascending.ofList parents.names

/-- The names met on the way from a name up to its entrypoint, at most so many. -/
def Parents.ancestry (parents : Parents) : Nat → String → List String
  | 0, _ => []
  | depth + 1, name =>
      if name = "" then []
      else name :: match parents.fetch name with
        | some (some parent) => ancestry parents depth parent
        | _ => []

structure Link where
  function : String
  file : Option String
  deriving DecidableEq

def Parents.chain (parents : Parents) (definedIn : Dict String) (maxDepth : Int)
    (function : String) : List Link :=
  ((parents.ancestry maxDepth.toNat function).map fun name => ⟨name, definedIn.fetch name⟩).reverse

/-- As `Parents.chain`, for a limit of any kind. Without a limit the chain is as long as the search
went deep. -/
def Parents.chainWithin (parents : Parents) (definedIn : Dict String) (maxDepth : Value)
    (function : String) : Except Fault (List Link) :=
  if function = "" then .ok []
  else (maxDepth.countBelow (parents.length + 1)).map fun depth =>
    parents.chain definedIn depth function

end CallGraph

end DiffReach
