namespace DiffReach

abbrev Dict (α : Type) := List (String × α)

namespace Dict

variable {α β : Type}

def fetch (d : Dict α) (key : String) : Option α :=
  d.lookup key

def holds (d : Dict α) (key : String) : Bool :=
  (d.lookup key).isSome

/-- A key that is present keeps its position. -/
def put : Dict α → String → α → Dict α
  | [], key, value => [(key, value)]
  | (k, v) :: rest, key, value =>
      if k = key then (k, value) :: rest else (k, v) :: put rest key value

def gather (writes : List (String × α)) : Dict α :=
  writes.foldl (fun d w => put d w.1 w.2) []

def putAll (d : Dict α) (writes : List (String × α)) : Dict α :=
  writes.foldl (fun d w => put d w.1 w.2) d

def names (d : Dict α) : List String :=
  d.map Prod.fst

def mapValues (f : α → β) (d : Dict α) : Dict β :=
  d.map fun entry => (entry.1, f entry.2)

theorem mem_of_fetch {d : Dict α} {key : String} {value : α} (h : d.fetch key = some value) :
    (key, value) ∈ d := by
  induction d with
  | nil => simp [fetch] at h
  | cons entry d ih =>
    obtain ⟨k, v⟩ := entry
    simp only [fetch, List.lookup_cons] at h
    split at h
    · simp_all
    · exact List.mem_cons_of_mem _ (ih h)

theorem holds_iff {d : Dict α} {key : String} : d.holds key = true ↔ key ∈ d.names := by
  induction d with
  | nil => simp [holds, names]
  | cons entry d ih =>
    obtain ⟨k, v⟩ := entry
    simp only [holds, names, List.lookup_cons, List.map_cons, List.mem_cons] at ih ⊢
    split
    · simp_all
    · have hne : key ≠ k := by simp_all
      simp [ih, hne]

end Dict

end DiffReach
