import DiffReach.Source.Definition
import DiffReach.Proofs.Dict

namespace DiffReach.Source

def segments : List String → List (String × List String)
  | [] => []
  | line :: rest =>
      match definedName? line with
      | some name =>
          (name, line :: rest.takeWhile fun line => (definedName? line).isNone) :: segments rest
      | none => segments rest

theorem segments_cons_some {line name : String} (h : definedName? line = some name)
    (rest : List String) : segments (line :: rest) =
      (name, line :: rest.takeWhile fun line => (definedName? line).isNone) :: segments rest := by
  rw [segments, h]

theorem segments_cons_none {line : String} (h : definedName? line = none) (rest : List String) :
    segments (line :: rest) = segments rest := by
  rw [segments, h]

theorem names_segments (ls : List String) :
    (segments ls).map Prod.fst = ls.filterMap definedName? := by
  induction ls with
  | nil => rfl
  | cons line rest ih =>
    cases h : definedName? line with
    | none => rw [segments_cons_none h, List.filterMap_cons_none h, ih]
    | some name => rw [segments_cons_some h, List.filterMap_cons_some h, List.map_cons, ih]

def definedNames (text : String) : List String :=
  (Text.lines text).filterMap definedName?

theorem scanBodies_some {name : String} {body : List String} {bodies : Dict (List String)}
    (h : bodies.fetch name = some body) (ls : List String) :
    scanBodies (some name) bodies ls =
      (bodies.put name (body ++ ls.takeWhile fun line => (definedName? line).isNone)).putAll
        (segments ls) := by
  -- the body grows by put, which the put of the whole body overwrites
  induction ls generalizing name body bodies with
  | nil =>
    rw [scanBodies, List.takeWhile_nil, List.append_nil, Dict.put_of_fetch h]
    rfl
  | cons line rest ih =>
    have hput (key : String) (value : List String) :
        (bodies.put key value).fetch key = some value := by simp [Dict.fetch_put]
    cases hd : definedName? line with
    | some next =>
      rw [scanBodies, hd, segments_cons_some hd, List.takeWhile_cons_of_neg (by simp [hd]),
        List.append_nil, Dict.put_of_fetch h, Dict.putAll_cons]
      simpa [Dict.put_put] using ih (hput next [line])
    | none =>
      rw [scanBodies, hd, segments_cons_none hd, List.takeWhile_cons_of_pos (by simp [hd])]
      simpa [Dict.put_put, h] using ih (hput name (body ++ [line]))

theorem scanBodies_none (bodies : Dict (List String)) (ls : List String) :
    scanBodies none bodies ls = bodies.putAll (segments ls) := by
  induction ls generalizing bodies with
  | nil => rfl
  | cons line rest ih =>
    cases hd : definedName? line with
    | none =>
      rw [scanBodies, hd, segments_cons_none hd]
      exact ih bodies
    | some name =>
      have hput : (bodies.put name [line]).fetch name = some [line] := by simp [Dict.fetch_put]
      rw [scanBodies, hd, segments_cons_some hd, Dict.putAll_cons]
      simpa [Dict.put_put] using scanBodies_some hput rest

theorem functionBodies_eq (text : String) :
    functionBodies text = Dict.gather (segments (Text.lines text)) :=
  scanBodies_none [] _

theorem ne_empty_of_calledName? {cs name : List Char} (h : calledName? cs = some name) :
    name ≠ [] := by
  cases cs with
  | nil => simp [calledName?] at h
  | cons c cs =>
    rw [calledName?] at h
    split at h
    · split at h
      · obtain rfl := Option.some.inj h
        exact List.cons_ne_nil _ _
      · exact absurd h (by simp)
    · exact absurd h (by simp)

theorem ne_empty_of_definedName? {line name : String} (h : definedName? line = some name) :
    name ≠ "" := by
  obtain ⟨cs, hcs, rfl⟩ := Option.map_eq_some_iff.mp h
  simp only [definedChars?, Option.bind_eq_bind, Option.bind_eq_some_iff] at hcs
  obtain ⟨afterDef, _, afterGap, _, hname⟩ := hcs
  have hne := ne_empty_of_calledName? hname
  simpa using hne

/-- The name that a line of a text defines; lines are counted from one. -/
def definedAt? (text : String) : Nat → Option String
  | 0 => none
  | n + 1 => (Text.lines text)[n]?.bind definedName?

/-- No definition stands at or above a line; the lines below the first count as the first. -/
def Outside (text : String) (line : Int) : Prop :=
  ∀ n : Nat, (n : Int) ≤ max 1 line → definedAt? text n = none

def Encloses (text : String) (line : Int) (name : String) : Prop :=
  ∃ n : Nat, (n : Int) ≤ max 1 line ∧ definedAt? text n = some name ∧
    ∀ m : Nat, n < m → (m : Int) ≤ max 1 line → definedAt? text m = none

theorem findSome?_take_succ (ls : List String) (k : Nat) :
    (ls.take (k + 1)).reverse.findSome? definedName? =
      (ls[k]?.bind definedName?).or ((ls.take k).reverse.findSome? definedName?) := by
  rw [List.take_add_one, List.reverse_append, List.findSome?_append]
  cases ls[k]? with
  | none => rfl
  | some line => cases h : definedName? line <;> simp [h]

theorem findSome?_take_eq_none_iff {text : String} {k : Nat} :
    ((Text.lines text).take k).reverse.findSome? definedName? = none ↔
      ∀ n ≤ k, definedAt? text n = none := by
  induction k with
  | zero => simp [definedAt?]
  | succ k ih =>
    rw [findSome?_take_succ, Option.or_eq_none_iff, ih]
    constructor
    · rintro ⟨hlast, hrest⟩ n hn
      rcases Nat.lt_or_eq_of_le hn with hlt | rfl
      · exact hrest n (by omega)
      · exact hlast
    · intro h
      exact ⟨h (k + 1) (Nat.le_refl _), fun n hn => h n (by omega)⟩

theorem findSome?_take_eq_some_iff {text name : String} {k : Nat} :
    ((Text.lines text).take k).reverse.findSome? definedName? = some name ↔
      ∃ n ≤ k, definedAt? text n = some name ∧ ∀ m, n < m → m ≤ k → definedAt? text m = none := by
  induction k with
  | zero => simp [definedAt?]
  | succ k ih =>
    rw [findSome?_take_succ, Option.or_eq_some_iff, ih]
    constructor
    · rintro (hlast | ⟨hnone, n, hn, hname, hafter⟩)
      · exact ⟨k + 1, Nat.le_refl _, hlast, fun m _ _ => by omega⟩
      · refine ⟨n, by omega, hname, fun m hlt hm => ?_⟩
        rcases Nat.lt_or_eq_of_le hm with hmk | rfl
        · exact hafter m hlt (by omega)
        · exact hnone
    · rintro ⟨n, hn, hname, hafter⟩
      rcases Nat.lt_or_eq_of_le hn with hlt | rfl
      · refine Or.inr ⟨hafter (k + 1) hlt (Nat.le_refl _), n, by omega, hname, fun m hm hmk => ?_⟩
        exact hafter m hm (by omega)
      · exact Or.inl hname

theorem containingFunction_eq_none_iff {text : String} {line : Int} :
    containingFunction text line = none ↔ Outside text line := by
  rw [containingFunction, findSome?_take_eq_none_iff]
  exact forall_congr' fun n => imp_congr_left (by omega)

theorem containingFunction_eq_some_iff {text name : String} {line : Int} :
    containingFunction text line = some name ↔ Encloses text line name := by
  rw [containingFunction, findSome?_take_eq_some_iff]
  refine exists_congr fun n => and_congr (by omega) (and_congr_right fun _ => ?_)
  exact forall_congr' fun m => imp_congr_right fun _ => imp_congr_left (by omega)

theorem Encloses.not_outside {text name : String} {line : Int} (h : Encloses text line name) :
    ¬ Outside text line := by
  intro hout
  rw [← containingFunction_eq_some_iff, containingFunction_eq_none_iff.mpr hout] at h
  exact absurd h (by simp)

theorem Encloses.unique {text name other : String} {line : Int} (h : Encloses text line name)
    (ho : Encloses text line other) : name = other := by
  rw [← containingFunction_eq_some_iff] at h ho
  exact Option.some.inj (h.symm.trans ho)

theorem Encloses.mem_names {text name : String} {line : Int} (h : Encloses text line name) :
    name ∈ (segments (Text.lines text)).map Prod.fst := by
  obtain ⟨n, _, hname, _⟩ := h
  cases n with
  | zero => simp [definedAt?] at hname
  | succ n =>
    obtain ⟨found, hfound, hdef⟩ := Option.bind_eq_some_iff.mp hname
    rw [names_segments, List.mem_filterMap]
    exact ⟨found, List.mem_of_getElem? hfound, hdef⟩

theorem ne_empty_of_mem_segments {ls : List String} {name : String}
    (h : name ∈ (segments ls).map Prod.fst) : name ≠ "" := by
  rw [names_segments, List.mem_filterMap] at h
  obtain ⟨line, _, hdef⟩ := h
  exact ne_empty_of_definedName? hdef

end DiffReach.Source
