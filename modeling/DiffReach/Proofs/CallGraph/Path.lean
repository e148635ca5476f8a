import DiffReach.CallGraph.Reachability
import DiffReach.Proofs.Ascending
import Mathlib.Order.Bounds.Defs

namespace DiffReach.CallGraph

def Calls (g : CallGraph) (caller callee : String) : Prop :=
  callee ∈ (g.edges.fetch caller).getD []

instance (g : CallGraph) (caller callee : String) : Decidable (g.Calls caller callee) :=
  inferInstanceAs (Decidable (_ ∈ _))

theorem mem_callees {g : CallGraph} {caller callee : String} :
    callee ∈ g.callees caller ↔ g.Calls caller callee :=
  Ascending.mem_ofList

theorem mem_fresh {g : CallGraph} {parents : Parents} {caller callee : String} :
    callee ∈ g.fresh parents caller ↔ g.Calls caller callee ∧ callee ∉ parents.names := by
  rw [fresh, List.mem_filter, mem_callees, Bool.not_eq_true', ← Bool.not_eq_true, Dict.holds_iff]

theorem mem_names_of_calls {g : CallGraph} {caller callee : String} (h : g.Calls caller callee) :
    caller ∈ g.edges.names := by
  cases hf : g.edges.fetch caller with
  | none => simp [Calls, hf] at h
  | some found => exact List.mem_map_of_mem (Dict.mem_of_fetch hf)

inductive Path (g : CallGraph) : Nat → String → String → Prop
  | nil (name : String) : Path g 0 name name
  | snoc {n : Nat} {first middle last : String} :
      Path g n first middle → g.Calls middle last → Path g (n + 1) first last

def Reaches (g : CallGraph) (entrypoints : List String) (name : String) : Prop :=
  ∃ entry ∈ entrypoints, ∃ n, g.Path n entry name

def IsDistance (g : CallGraph) (entrypoints : List String) (name : String) (d : Nat) : Prop :=
  IsLeast {n | ∃ entry ∈ entrypoints, g.Path n entry name} d

def ClosedFrom (g : CallGraph) (entrypoints : List String) (names : Set String) : Prop :=
  (∀ entry ∈ entrypoints, entry ∈ names) ∧
    ∀ caller ∈ names, ∀ callee, g.Calls caller callee → callee ∈ names

theorem reaches_entry {g : CallGraph} {entrypoints : List String} {entry : String}
    (h : entry ∈ entrypoints) : g.Reaches entrypoints entry :=
  ⟨entry, h, 0, .nil entry⟩

theorem Reaches.snoc {g : CallGraph} {entrypoints : List String} {caller callee : String}
    (h : g.Reaches entrypoints caller) (hc : g.Calls caller callee) :
    g.Reaches entrypoints callee := by
  obtain ⟨entry, he, n, hp⟩ := h
  exact ⟨entry, he, n + 1, hp.snoc hc⟩

theorem closedFrom_reaches (g : CallGraph) (entrypoints : List String) :
    g.ClosedFrom entrypoints {name | g.Reaches entrypoints name} :=
  ⟨fun _ he => reaches_entry he, fun _ hr _ hc => Reaches.snoc hr hc⟩

theorem ClosedFrom.mem_of_path {g : CallGraph} {entrypoints : List String} {names : Set String}
    (h : g.ClosedFrom entrypoints names) {n : Nat} {first last : String}
    (hfirst : first ∈ names) (hp : g.Path n first last) : last ∈ names := by
  induction hp with
  | nil => exact hfirst
  | snoc _ hc ih => exact h.2 _ (ih hfirst) _ hc

theorem ClosedFrom.mem_of_reaches {g : CallGraph} {entrypoints : List String} {names : Set String}
    (h : g.ClosedFrom entrypoints names) {name : String} (hr : g.Reaches entrypoints name) :
    name ∈ names := by
  obtain ⟨entry, he, n, hp⟩ := hr
  exact h.mem_of_path (h.1 entry he) hp

end DiffReach.CallGraph
