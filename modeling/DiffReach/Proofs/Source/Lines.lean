import DiffReach.Proofs.Source.Segment
import Mathlib.Data.List.Pairwise
import Mathlib.Data.List.TakeWhile

namespace DiffReach.Source

open Text

def preamble (ls : List String) : List String :=
  ls.takeWhile fun line => (definedName? line).isNone

/-- A segment with a name holds a line and begins at another; lines are counted from one. -/
def HoldsLine (ls : List String) (line : Nat) (name : String) (first : Nat) : Prop :=
  ∃ before body after, segments ls = before ++ (name, body) :: after ∧
    first = (preamble ls).length + (before.flatMap Prod.snd).length + 1 ∧
    first ≤ line ∧ line < first + body.length

variable {ls : List String}

theorem preamble_append_segments (ls : List String) :
    preamble ls ++ (segments ls).flatMap Prod.snd = ls := by
  induction ls with
  | nil => rfl
  | cons line rest ih =>
    cases h : definedName? line with
    | none =>
      rw [segments_cons_none h, preamble, List.takeWhile_cons_of_pos (by simp [h])]
      exact congrArg (line :: ·) ih
    | some name =>
      rw [segments_cons_some h, preamble, List.takeWhile_cons_of_neg (by simp [h])]
      exact congrArg (line :: ·) ih

theorem exists_lines_of_mem_segments {name : String} {body : List String}
    (h : (name, body) ∈ segments ls) :
    ∃ line others, body = line :: others ∧ definedName? line = some name ∧
      ∀ other ∈ others, definedName? other = none := by
  induction ls with
  | nil => cases h
  | cons line rest ih =>
    cases hd : definedName? line with
    | none =>
      rw [segments_cons_none hd] at h
      exact ih h
    | some found =>
      rw [segments_cons_some hd] at h
      rcases List.mem_cons.mp h with heq | h
      · obtain ⟨rfl, rfl⟩ := Prod.mk.inj heq
        refine ⟨line, _, rfl, hd, fun other hother => ?_⟩
        simpa using List.mem_takeWhile_imp hother
      · exact ih h

theorem HoldsLine.exists_split {line first : Nat} {name : String}
    (h : HoldsLine ls line name first) : ∃ lead head others rest,
      ls = lead ++ head :: (others ++ rest) ∧ (name, head :: others) ∈ segments ls ∧
      definedName? head = some name ∧ (∀ other ∈ others, definedName? other = none) ∧
      first = lead.length + 1 ∧ lead.length < line ∧ line ≤ lead.length + 1 + others.length := by
  obtain ⟨before, body, after, hsegs, rfl, hfirst, hlast⟩ := h
  have hmem : (name, body) ∈ segments ls := by simp [hsegs]
  obtain ⟨head, others, rfl, hhead, hothers⟩ := exists_lines_of_mem_segments hmem
  have hwhole := preamble_append_segments ls
  rw [hsegs] at hwhole
  have hlength : (preamble ls ++ before.flatMap Prod.snd).length =
      (preamble ls).length + (before.flatMap Prod.snd).length := List.length_append
  rw [List.length_cons] at hlast
  refine ⟨preamble ls ++ before.flatMap Prod.snd, head, others, after.flatMap Prod.snd,
    by simpa using hwhole.symm, hmem, hhead, hothers, ?_, ?_, ?_⟩
  · rw [hlength]
  · omega
  · omega

theorem findSome?_of_holdsLine {line first : Nat} {name : String}
    (h : HoldsLine ls line name first) :
    (ls.take line).reverse.findSome? definedName? = some name := by
  obtain ⟨lead, head, others, rest, hls, -, hhead, hothers, -, hfirst, hlast⟩ := h.exists_split
  -- the lines up to the given one are those before the segment, its head and some of the others
  obtain ⟨k, rfl⟩ : ∃ k, line = lead.length + (k + 1) := ⟨line - lead.length - 1, by omega⟩
  have hbelow : (others.take k).reverse.findSome? definedName? = none := by
    rw [List.findSome?_eq_none_iff]
    intro other hother
    exact hothers other (List.mem_of_mem_take (List.mem_reverse.mp hother))
  rw [hls, List.take_length_add_append, List.take_succ_cons,
    List.take_append_of_le_length (by omega), List.reverse_append, List.reverse_cons,
    List.findSome?_append, List.findSome?_append, hbelow]
  simp [hhead]

theorem exists_block_of_lt {blocks : List (String × List String)} {i : Nat}
    (h : i < (blocks.flatMap Prod.snd).length) :
    ∃ before block after, blocks = before ++ block :: after ∧
      (before.flatMap Prod.snd).length ≤ i ∧
      i < (before.flatMap Prod.snd).length + block.2.length := by
  induction blocks generalizing i with
  | nil => cases h
  | cons block blocks ih =>
    rw [List.flatMap_cons, List.length_append] at h
    by_cases hi : i < block.2.length
    · exact ⟨[], block, blocks, rfl, Nat.zero_le i, by simpa using hi⟩
    · obtain ⟨before, found, after, rfl, hle, hlt⟩ := @ih (i - block.2.length) (by omega)
      refine ⟨block :: before, found, after, rfl, ?_, ?_⟩
      · rw [List.flatMap_cons, List.length_append]
        omega
      · rw [List.flatMap_cons, List.length_append]
        omega

theorem exists_holdsLine {line : Nat} (hfirst : (preamble ls).length < line)
    (hlast : line ≤ ls.length) : ∃ name first, HoldsLine ls line name first := by
  have hlength := congrArg List.length (preamble_append_segments ls)
  rw [List.length_append] at hlength
  have hindex : line - (preamble ls).length - 1 < ((segments ls).flatMap Prod.snd).length := by
    omega
  obtain ⟨before, ⟨name, body⟩, after, hsegs, hle, hlt⟩ := exists_block_of_lt hindex
  have hend : line - (preamble ls).length - 1 <
      (before.flatMap Prod.snd).length + body.length := hlt
  exact ⟨name, _, before, body, after, hsegs, rfl, by omega, by omega⟩

theorem findSome?_of_le_preamble {line : Nat} (h : line ≤ (preamble ls).length) :
    (ls.take line).reverse.findSome? definedName? = none := by
  rw [List.findSome?_eq_none_iff]
  intro other hother
  rw [← preamble_append_segments ls, List.take_append_of_le_length h] at hother
  have hmem := List.mem_of_mem_take (List.mem_reverse.mp hother)
  simpa using List.mem_takeWhile_imp hmem

theorem findSome?_eq_some_iff_holdsLine {line : Nat} (hline : line ≤ ls.length) {name : String} :
    (ls.take line).reverse.findSome? definedName? = some name ↔
      ∃ first, HoldsLine ls line name first := by
  constructor
  · intro h
    have hfirst : (preamble ls).length < line := by
      by_contra hle
      rw [findSome?_of_le_preamble (Nat.le_of_not_lt hle)] at h
      cases h
    obtain ⟨found, first, hholds⟩ := exists_holdsLine hfirst hline
    obtain rfl : found = name :=
      Option.some.inj ((findSome?_of_holdsLine hholds).symm.trans h)
    exact ⟨first, hholds⟩
  · rintro ⟨first, hholds⟩
    exact findSome?_of_holdsLine hholds

theorem findSome?_eq_none_iff_le_preamble {line : Nat} (hline : line ≤ ls.length) :
    (ls.take line).reverse.findSome? definedName? = none ↔ line ≤ (preamble ls).length := by
  refine ⟨fun h => ?_, findSome?_of_le_preamble⟩
  by_contra hlt
  obtain ⟨name, first, hholds⟩ := exists_holdsLine (Nat.lt_of_not_le hlt) hline
  rw [findSome?_of_holdsLine hholds] at h
  cases h

def nearestLine (text : String) (n : Int) : Nat :=
  (min (max n 1) (lines text).length).toNat

theorem nearestLine_le (text : String) (n : Int) : nearestLine text n ≤ (lines text).length := by
  rw [nearestLine]
  omega

theorem containingFunctionAt_int (text : String) (n : Int) : containingFunctionAt text (.int n) =
    .ok (((lines text).take (nearestLine text n)).reverse.findSome? definedName?) := by
  have htake : (lines text).take (nearestLine text n) = (lines text).take (max 1 n).toNat := by
    rw [List.take_eq_take_iff, nearestLine]
    omega
  rw [htake]
  by_cases hn : n = 0
  · subst hn
    rfl
  · have hcounts : (Value.int n).truthy = true := by simpa [Value.truthy] using hn
    rw [containingFunctionAt, Value.orElse, if_pos hcounts]
    rfl

theorem HoldsLine.definedAt {text name : String} {line first : Nat}
    (h : HoldsLine (lines text) line name first) : definedAt? text first = some name := by
  obtain ⟨lead, head, others, rest, hls, -, hhead, -, rfl, -, -⟩ := h.exists_split
  rw [definedAt?, hls, List.getElem?_append_right (Nat.le_refl _), Nat.sub_self]
  exact hhead

theorem HoldsLine.exists_getElem? {line first : Nat} {name : String}
    (h : HoldsLine ls line name first) : ∃ body content, (name, body) ∈ segments ls ∧
      ls[line - 1]? = some content ∧ body[line - first]? = some content := by
  obtain ⟨lead, head, others, rest, hls, hmem, -, -, rfl, hfirst, hlast⟩ := h.exists_split
  obtain ⟨k, rfl⟩ : ∃ k, line = lead.length + 1 + k := ⟨line - (lead.length + 1), by omega⟩
  have hk : k < (head :: others).length := by
    rw [List.length_cons]
    omega
  refine ⟨head :: others, (head :: others)[k], hmem, ?_, ?_⟩
  · have hindex : lead.length + 1 + k - 1 - lead.length = k := by omega
    rw [hls, List.getElem?_append_right (by omega), hindex, ← List.cons_append,
      List.getElem?_append_left hk, List.getElem?_eq_getElem hk]
  · rw [Nat.add_sub_cancel_left, List.getElem?_eq_getElem hk]

theorem eq_of_definedAt {text name : String} {m n : Nat}
    (hdistinct : ((segments (lines text)).map Prod.fst).Nodup) (hm : definedAt? text m = some name)
    (hn : definedAt? text n = some name) : m = n := by
  cases m with
  | zero => cases hm
  | succ m =>
    cases n with
    | zero => cases hn
    | succ n =>
      obtain ⟨first, hfirst, hname⟩ := Option.bind_eq_some_iff.mp hm
      obtain ⟨second, hsecond, hname'⟩ := Option.bind_eq_some_iff.mp hn
      obtain ⟨hm', rfl⟩ := List.getElem?_eq_some_iff.mp hfirst
      obtain ⟨hn', rfl⟩ := List.getElem?_eq_some_iff.mp hsecond
      rw [names_segments, List.Nodup, List.pairwise_filterMap, List.pairwise_iff_getElem]
        at hdistinct
      rcases Nat.lt_trichotomy m n with hlt | heq | hgt
      · exact absurd rfl (hdistinct m n hm' hn' hlt name hname name hname')
      · rw [heq]
      · exact absurd rfl (hdistinct n m hn' hm' hgt name hname' name hname)

theorem functionBodies_of_nodup {text : String}
    (h : ((segments (lines text)).map Prod.fst).Nodup) :
    functionBodies text = segments (lines text) := by
  rw [functionBodies_eq, Dict.gather_of_nodup h]

theorem flatMap_functionBodies {text : String}
    (h : ((segments (lines text)).map Prod.fst).Nodup) :
    (functionBodies text).flatMap Prod.snd = (lines text).drop (preamble (lines text)).length := by
  have hdrop := congrArg (List.drop (preamble (lines text)).length)
    (preamble_append_segments (lines text))
  rw [List.drop_left] at hdrop
  rw [functionBodies_of_nodup h, hdrop]

theorem functionBodies_holds_line {text name : String} {n first : Nat}
    (hdistinct : ((segments (lines text)).map Prod.fst).Nodup) (hn : 1 ≤ n)
    (hlast : n ≤ (lines text).length)
    (hname : containingFunctionAt text (.int n) = .ok (some name))
    (hfirst : definedAt? text first = some name) :
    first ≤ n ∧ ∃ body content, (functionBodies text).fetch name = some body ∧
      (lines text)[n - 1]? = some content ∧ body[n - first]? = some content := by
  have hnearest : nearestLine text n = n := by
    rw [nearestLine]
    omega
  rw [containingFunctionAt_int, hnearest] at hname
  obtain ⟨start, hholds⟩ :=
    (findSome?_eq_some_iff_holdsLine hlast).mp (Except.ok.inj hname)
  obtain rfl := eq_of_definedAt hdistinct hholds.definedAt hfirst
  obtain ⟨body, content, hmem, hline, hbody⟩ := hholds.exists_getElem?
  obtain ⟨-, -, -, -, -, hle, -⟩ := hholds
  refine ⟨hle, body, content, ?_, hline, hbody⟩
  rw [functionBodies_of_nodup hdistinct]
  exact Dict.fetch_of_mem hdistinct hmem

theorem scanners_agree (text : String) :
    preamble (lines text) ++ (segments (lines text)).flatMap Prod.snd = lines text ∧
    (∀ (n : Int) (name : String), containingFunctionAt text (.int n) = .ok (some name) ↔
      ∃ first, HoldsLine (lines text) (nearestLine text n) name first) ∧
    (∀ n : Int, containingFunctionAt text (.int n) = .ok none ↔
      nearestLine text n ≤ (preamble (lines text)).length) ∧
    (functionBodies text).names = ((segments (lines text)).map Prod.fst).eraseDups ∧
    (∀ (name : String) (body : List String), (functionBodies text).fetch name = some body ↔
      Dict.LastWrite (segments (lines text)) name body) ∧
    (((segments (lines text)).map Prod.fst).Nodup →
      (functionBodies text).flatMap Prod.snd =
        (lines text).drop (preamble (lines text)).length ∧
      ∀ (n first : Nat) (name : String), 1 ≤ n → n ≤ (lines text).length →
        containingFunctionAt text (.int n) = .ok (some name) → definedAt? text first = some name →
          first ≤ n ∧ ∃ body content, (functionBodies text).fetch name = some body ∧
            (lines text)[n - 1]? = some content ∧ body[n - first]? = some content) := by
  refine ⟨preamble_append_segments _, fun n name => ?_, fun n => ?_, ?_, fun name body => ?_,
    fun hdistinct => ⟨flatMap_functionBodies hdistinct, fun n first name => ?_⟩⟩
  · rw [containingFunctionAt_int, Except.ok.injEq,
      findSome?_eq_some_iff_holdsLine (nearestLine_le text n)]
  · rw [containingFunctionAt_int, Except.ok.injEq,
      findSome?_eq_none_iff_le_preamble (nearestLine_le text n)]
  · rw [functionBodies_eq, Dict.names_gather]
  · rw [functionBodies_eq, Dict.fetch_gather_eq_some_iff]
  · exact functionBodies_holds_line hdistinct

def twoFunctions : String :=
  "import os\ndef first():\n  second()\n\nasync def second(a):\n  pass"

theorem scanners_agree_two :
    ((segments (lines twoFunctions)).map Prod.fst).Nodup ∧
    preamble (lines twoFunctions) = ["import os"] ∧
    containingFunctionAt twoFunctions (.int 6) = .ok (some "second") ∧
    containingFunctionAt twoFunctions (.int (-3)) = .ok none ∧
    (functionBodies twoFunctions).flatMap Prod.snd = (lines twoFunctions).drop 1 ∧
    ∃ body content, (functionBodies twoFunctions).fetch "second" = some body ∧
      (lines twoFunctions)[5]? = some content ∧ body[1]? = some content := by
  have hdistinct : ((segments (lines twoFunctions)).map Prod.fst).Nodup := by decide +kernel
  have hpreamble : preamble (lines twoFunctions) = ["import os"] := by decide +kernel
  have hname : containingFunctionAt twoFunctions (.int 6) = .ok (some "second") := by
    rw [containingFunctionAt_int]
    exact congrArg Except.ok (by decide +kernel)
  obtain ⟨-, -, hnone, -, -, hrest⟩ := scanners_agree twoFunctions
  obtain ⟨hconcat, hline⟩ := hrest hdistinct
  rw [hpreamble] at hconcat
  refine ⟨hdistinct, hpreamble, hname, (hnone (-3)).mpr (by decide +kernel), hconcat, ?_⟩
  exact (hline 6 5 "second" (by decide) (by decide +kernel) hname (by decide +kernel)).2

end DiffReach.Source
