import DiffReach.Proofs.CheckRun.Conservation
import DiffReach.Proofs.Finding
import DiffReach.Proofs.Source.Segment
import DiffReach.Proofs.Text.Rendering

namespace DiffReach

namespace Source

open Text

variable {line start : Int} {text name : String}

def NearestAbove (text : String) (start : Int) (name : String) : Prop :=
  ∃ n : Nat, (n : Int) ≤ start ∧ definedAt? text n = some name ∧
    ∀ m : Nat, n < m → (m : Int) ≤ start → definedAt? text m = none

/-- The search for the function at a line goes upwards from another line in every text. -/
def SearchesFrom (line start : Int) : Prop :=
  1 ≤ start ∧ ∀ text name, containingFunction text line = some name ↔ NearestAbove text start name

def loneDefinition (above : Nat) : String :=
  unlines (List.replicate above "" ++ ["def f("])

theorem definedAt?_loneDefinition (above n : Nat) :
    definedAt? (loneDefinition above) n = if n = above + 1 then some "f" else none := by
  have hlines : lines (loneDefinition above) = List.replicate above "" ++ ["def f("] := by
    refine lines_unlines (by simp) fun line hline => ?_
    rcases List.mem_append.mp hline with hempty | hlast
    · rw [List.eq_of_mem_replicate hempty]
      decide
    · rw [List.mem_singleton.mp hlast]
      decide
  have hempty : definedName? "" = none := by decide
  have hname : definedName? "def f(" = some "f" := by decide +kernel
  cases n with
  | zero => simp [definedAt?]
  | succ n =>
    rw [definedAt?, hlines]
    rcases Nat.lt_trichotomy n above with hlt | rfl | hgt
    · rw [List.getElem?_append_left (by simpa using hlt), List.getElem?_replicate_of_lt hlt,
        if_neg (by omega)]
      exact hempty
    · rw [List.getElem?_append_right (by simp), List.length_replicate, Nat.sub_self, if_pos rfl]
      exact hname
    · rw [List.getElem?_eq_none (by simp; omega), if_neg (by omega)]
      rfl

theorem nearestAbove_loneDefinition_iff {above : Nat} :
    NearestAbove (loneDefinition above) start "f" ↔ (above : Int) < start := by
  simp only [NearestAbove, definedAt?_loneDefinition]
  constructor
  · rintro ⟨n, hn, hname, -⟩
    split at hname
    · omega
    · cases hname
  · intro h
    exact ⟨above + 1, by omega, if_pos rfl, fun m hm _ => if_neg (by omega)⟩

theorem searchesFrom_max (line : Int) : SearchesFrom line (max 1 line) :=
  ⟨le_max_left 1 line, fun _ _ => containingFunction_eq_some_iff⟩

theorem searchesFrom_iff : SearchesFrom line start ↔ start = max 1 line := by
  constructor
  · rintro ⟨hstart, hsearch⟩
    -- Two lines from which all searches end alike have the same lines above them.
    have hsame : ∀ above : Nat, (above : Int) < start ↔ (above : Int) < max 1 line := by
      intro above
      rw [← nearestAbove_loneDefinition_iff, ← nearestAbove_loneDefinition_iff, ← hsearch,
        (searchesFrom_max line).2]
    have hbelow := hsame (start.toNat - 1)
    have habove := hsame ((max 1 line).toNat - 1)
    omega
  · rintro rfl
    exact searchesFrom_max line

end Source

namespace CheckRun

open Source Finding

structure Placed (f : Finding) (r : Remark) : Prop where
  start : r.toValue.field "start_line" = .ok (.int r.line)
  finish : r.toValue.field "end_line" = .ok (.int r.line)
  line : r.line = if f.lineNumber = 0 then 1 else f.lineNumber
  agrees : SearchesFrom f.lineNumber r.line ↔ 0 ≤ f.lineNumber

theorem placed_of_ofFinding {limits : Limits} {f : Finding} {r : Remark}
    (h : Remark.ofFinding limits f = .ok r) : Placed f r := by
  have hline : r.line = if f.lineNumber = 0 then 1 else f.lineNumber := by
    rw [Remark.ofFinding] at h
    cases hdetails : Remark.details? limits.maxRawDetails f.snippet with
    | error fault =>
      rw [hdetails] at h
      cases h
    | ok details =>
      rw [hdetails] at h
      obtain rfl := Except.ok.inj h
      rfl
  refine ⟨rfl, rfl, hline, ?_⟩
  rw [searchesFrom_iff, hline]
  split <;> omega

theorem Placed.one_le_line_iff {f : Finding} {r : Remark} (h : Placed f r) :
    1 ≤ r.line ↔ 0 ≤ f.lineNumber := by
  rw [h.line]
  split <;> omega

variable {e : Emitter} {passed : Bool} {findings : List Finding} {scope : Option Scope}
  {scanId : String} {payload : Payload}

theorem exists_cut_of_build (h : e.build passed findings scope scanId = .ok payload) :
    ∃ shown, e.limits.maxAnnotations.cut (candidates findings) = .ok shown ∧
      shown.map (Remark.ofFinding e.limits) = payload.remarks.map .ok := by
  rw [Emitter.build] at h
  cases hcut : e.limits.maxAnnotations.cut (candidates findings) with
  | error fault =>
    rw [hcut] at h
    cases h
  | ok shown =>
    rw [hcut] at h
    cases hremarks : shown.mapM (Remark.ofFinding e.limits) with
    | error fault =>
      simp [bind, Except.bind, hremarks] at h
    | ok remarks =>
      simp only [bind, Except.bind, hremarks] at h
      obtain rfl := Except.ok.inj h
      exact ⟨shown, rfl, mapM_eq_ok_iff.mp hremarks⟩

theorem mem_of_cut {α : Type} {limit : Value} {xs ys : List α} {y : α} (h : limit.cut xs = .ok ys)
    (hy : y ∈ ys) : y ∈ xs := by
  have hcapped (cap : Int) (hmem : y ∈ capped cap xs) : y ∈ xs := by
    rw [capped] at hmem
    split at hmem
    · exact List.mem_of_mem_take hmem
    · exact List.mem_of_mem_take hmem
  unfold Value.cut at h
  split at h
  · exact Except.ok.inj h ▸ hy
  · split at h
    · rename_i cap _
      exact hcapped cap (Except.ok.inj h ▸ hy)
    · cases h

theorem exists_describes_of_mem {objects : List (Dict Value)}
    (h : objects.map Finding.ofFields = findings.map .ok) {f : Finding} (hf : f ∈ findings) :
    ∃ object ∈ objects, Describes object f := by
  have hmem : (Except.ok f : Except Fault Finding) ∈ objects.map Finding.ofFields := by
    rw [h]
    exact List.mem_map_of_mem hf
  obtain ⟨object, hobject, hread⟩ := List.mem_map.mp hmem
  exact ⟨object, hobject, ofFields_eq_ok_iff.mp hread⟩

theorem forall_one_le_line_iff {shown : List Finding} {remarks : List Remark}
    (h : List.Forall₂ Placed shown remarks) :
    (∀ r ∈ remarks, 1 ≤ r.line) ↔ ∀ f ∈ shown, 0 ≤ f.lineNumber := by
  induction h with
  | nil => exact iff_of_true (List.forall_mem_nil _) (List.forall_mem_nil _)
  | cons hplaced _ ih =>
    rw [List.forall_mem_cons, List.forall_mem_cons, hplaced.one_le_line_iff, ih]

theorem map_line_eq {shown : List Finding} {remarks : List Remark}
    (h : List.Forall₂ Placed shown remarks) : remarks.map Remark.line =
      shown.map fun f => if f.lineNumber = 0 then 1 else f.lineNumber := by
  induction h with
  | nil => rfl
  | cons hplaced _ ih => rw [List.map_cons, List.map_cons, hplaced.line, ih]

theorem build_placed {objects : List (Dict Value)}
    (hfindings : objects.map Finding.ofFields = findings.map .ok)
    (hbuild : e.build passed findings scope scanId = .ok payload) :
    ∃ shown, e.limits.maxAnnotations.cut (candidates findings) = .ok shown ∧
      List.Forall₂ Placed shown payload.remarks ∧
      (∀ f ∈ shown, ∃ object ∈ objects, Describes object f ∧
        (f.lineNumber < 0 ↔ ∃ n < 0, (givenLine object).IsWhole n)) ∧
      ((∀ r ∈ payload.remarks, 1 ≤ r.line) ↔ ∀ f ∈ shown, 0 ≤ f.lineNumber) := by
  obtain ⟨shown, hcut, hremarks⟩ := exists_cut_of_build hbuild
  have hplaced : List.Forall₂ Placed shown payload.remarks :=
    (forall₂_of_map_eq_map_ok hremarks).imp fun _ _ => placed_of_ofFinding
  refine ⟨shown, hcut, hplaced, fun f hf => ?_, forall_one_le_line_iff hplaced⟩
  have hfound : f ∈ findings := List.mem_of_mem_filter (mem_of_cut hcut hf)
  obtain ⟨object, hobject, hdescribes⟩ := exists_describes_of_mem hfindings hfound
  exact ⟨object, hobject, hdescribes, hdescribes.line.neg_iff⟩

def plainEmitter : Emitter :=
  .create ⟨"t", "https://api.github.com", .int 20⟩ {} "" defaultName

def reported (line : Value) : Dict Value :=
  [("rule_id", .str "R1"), ("file", .str "a.py"), ("line", line), ("is_new", .bool true)]

theorem exists_build_reported (lines : List (Value × Int)) :
    ∃ payload, plainEmitter.build false (lines.map fun l => atLine (reported l.1) l.2) none "1" =
      .ok payload := by
  refine (exists_build_iff (n := 50) rfl (m := 60000) rfl false _ none "1").mpr fun f hf => ?_
  obtain ⟨line, -, rfl⟩ := List.mem_map.mp (List.mem_of_mem_filter (List.mem_of_mem_take hf))
  exact .inl rfl

def halfAndSeven : List (Value × Int) :=
  [(.float (.finite false 1 (-1)), 0), (.int 7, 7)]

theorem build_placed_half : ∃ payload,
    (halfAndSeven.map fun l => reported l.1).map Finding.ofFields =
      (halfAndSeven.map fun l => atLine (reported l.1) l.2).map .ok ∧
    plainEmitter.build false (halfAndSeven.map fun l => atLine (reported l.1) l.2) none "1" =
      .ok payload ∧
    payload.remarks.map Remark.line = [1, 7] ∧ SearchesFrom 0 1 ∧ SearchesFrom 7 7 := by
  obtain ⟨payload, hbuild⟩ := exists_build_reported halfAndSeven
  have hfindings : (halfAndSeven.map fun l => reported l.1).map Finding.ofFields =
      (halfAndSeven.map fun l => atLine (reported l.1) l.2).map .ok := by
    have hhalf : IsLine (givenLine (reported (.float (.finite false 1 (-1))))) 0 :=
      .whole (Value.toInt_eq_ok_iff.mp rfl)
    have hseven : IsLine (givenLine (reported (.int 7))) 7 := .whole (.int 7)
    simp only [halfAndSeven, List.map_cons, List.map_nil,
      ofFields_eq_ok_iff.mpr (describes_atLine hhalf),
      ofFields_eq_ok_iff.mpr (describes_atLine hseven)]
  obtain ⟨shown, hcut, hplaced, -, -⟩ := build_placed hfindings hbuild
  obtain rfl : halfAndSeven.map (fun l => atLine (reported l.1) l.2) = shown := Except.ok.inj hcut
  exact ⟨payload, hfindings, hbuild, map_line_eq hplaced, searchesFrom_iff.mpr rfl,
    searchesFrom_iff.mpr rfl⟩

/-- A remark above the first line of its file, while the search for the function starts there. -/
theorem build_below_first : ∃ payload,
    Finding.ofFields (reported (.int (-3))) = .ok (atLine (reported (.int (-3))) (-3)) ∧
    plainEmitter.build false [atLine (reported (.int (-3))) (-3)] none "1" = .ok payload ∧
    payload.remarks.map Remark.line = [-3] ∧ SearchesFrom (-3) 1 ∧ ¬ SearchesFrom (-3) (-3) := by
  obtain ⟨payload, hbuild⟩ := exists_build_reported [(.int (-3), -3)]
  obtain ⟨shown, hcut, hremarks⟩ := exists_cut_of_build hbuild
  obtain rfl : [atLine (reported (.int (-3))) (-3)] = shown := Except.ok.inj hcut
  have hplaced : List.Forall₂ Placed _ payload.remarks :=
    (forall₂_of_map_eq_map_ok hremarks).imp fun _ _ => placed_of_ofFinding
  refine ⟨payload, ofFields_eq_ok_iff.mpr (describes_atLine (.whole (.int (-3)))), hbuild,
    map_line_eq hplaced, searchesFrom_iff.mpr rfl, fun hsearch => ?_⟩
  exact absurd hsearch.1 (by decide)

end CheckRun

end DiffReach
