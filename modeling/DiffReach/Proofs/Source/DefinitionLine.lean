import DiffReach.Proofs.Source.Call
import DiffReach.Source.Definition
import Mathlib.Data.List.TakeWhile

namespace DiffReach.Source

open Text

def IsGap (gap : List Char) : Prop :=
  gap ≠ [] ∧ ∀ c ∈ gap, isBlank c = true

inductive IsOpening : List Char → Prop
  | plain : IsOpening []
  | async (gap : List Char) : IsGap gap → IsOpening ("async".toList ++ gap)

def IsDefinition (line name : List Char) : Prop :=
  ∃ margin opening gap slot rest,
    line = margin ++ (opening ++ ("def".toList ++ (gap ++ (name ++ (slot ++ '(' :: rest))))) ∧
    (∀ c ∈ margin, isBlank c = true) ∧ IsOpening opening ∧ IsGap gap ∧ IsName name ∧
    ∀ c ∈ slot, isBlank c = true

variable {line name cs rest : List Char}

theorem exists_gap_of_afterBlanks? (h : afterBlanks? cs = some rest) :
    ∃ gap, IsGap gap ∧ cs = gap ++ rest := by
  cases cs with
  | nil => cases h
  | cons c cs =>
    rw [afterBlanks?] at h
    split at h
    · rename_i hc
      obtain rfl := Option.some.inj h
      refine ⟨c :: cs.takeWhile isBlank, ⟨List.cons_ne_nil _ _, ?_⟩, ?_⟩
      · intro d hd
        rcases List.mem_cons.mp hd with rfl | hd
        · exact hc
        · exact List.mem_takeWhile_imp hd
      · rw [List.cons_append, List.takeWhile_append_dropWhile]
    · cases h

theorem exists_opening (cs : List Char) :
    ∃ opening, IsOpening opening ∧ cs = opening ++ skipAsync cs := by
  have hplain : ∃ opening, IsOpening opening ∧ cs = opening ++ cs := ⟨[], .plain, rfl⟩
  rw [skipAsync]
  split
  · exact hplain
  · rename_i rest hrest
    cases hafter : afterBlanks? rest with
    | none => exact hplain
    | some after =>
      obtain ⟨gap, hgap, rfl⟩ := exists_gap_of_afterBlanks? hafter
      refine ⟨"async".toList ++ gap, .async gap hgap, ?_⟩
      rw [List.append_assoc]
      exact (List.isPrefixOf?_eq_some_iff_append_eq.mp hrest).symm

theorem exists_slot_of_calledName? (h : calledName? cs = some name) :
    ∃ slot rest, cs = name ++ (slot ++ '(' :: rest) ∧ IsName name ∧
      ∀ c ∈ slot, isBlank c = true := by
  cases cs with
  | nil => cases h
  | cons c cs =>
    rw [calledName?] at h
    split at h
    · rename_i hc
      split at h
      · rename_i rest hparen
        obtain rfl := Option.some.inj h
        refine ⟨(cs.dropWhile isWord).takeWhile isBlank, rest, ?_, ?_, ?_⟩
        · rw [← hparen, List.takeWhile_append_dropWhile, List.cons_append,
            List.takeWhile_append_dropWhile]
        · exact ⟨c, cs.takeWhile isWord, rfl, hc, fun d hd => List.mem_takeWhile_imp hd⟩
        · exact fun d hd => List.mem_takeWhile_imp hd
      · cases h
    · cases h

theorem isDefinition_of_definedChars? (h : definedChars? line = some name) :
    IsDefinition line name := by
  simp only [definedChars?, Option.bind_eq_bind, Option.bind_eq_some_iff] at h
  obtain ⟨afterDef, hdef, afterGap, hafter, hname⟩ := h
  obtain ⟨opening, hopening, hline⟩ := exists_opening (line.dropWhile isBlank)
  obtain ⟨gap, hgap, rfl⟩ := exists_gap_of_afterBlanks? hafter
  obtain ⟨slot, rest, rfl, hn, hslot⟩ := exists_slot_of_calledName? hname
  rw [← List.isPrefixOf?_eq_some_iff_append_eq.mp hdef] at hline
  refine ⟨line.takeWhile isBlank, opening, gap, slot, rest, ?_, ?_, hopening, hgap, hn, hslot⟩
  · rw [← hline, List.takeWhile_append_dropWhile]
  · exact fun c hc => List.mem_takeWhile_imp hc

theorem isDefinition_of_definedName? {line name : String} (h : definedName? line = some name) :
    IsDefinition line.toList name.toList := by
  obtain ⟨cs, hcs, rfl⟩ := Option.map_eq_some_iff.mp h
  rw [String.toList_ofList]
  exact isDefinition_of_definedChars? hcs

theorem IsGap.unbegun {gap : List Char} (h : IsGap gap) (lead : List Char) :
    Unbegun (lead ++ gap) := by
  obtain ⟨hne, hblank⟩ := h
  have hlast := hblank _ (List.getLast_mem hne)
  rw [← List.dropLast_append_getLast hne, ← List.append_assoc]
  exact unbegun_snoc (isWord_of_isBlank hlast)

theorem IsDefinition.callsIn (h : IsDefinition line name) : CallsIn line name := by
  obtain ⟨margin, opening, gap, slot, rest, rfl, -, -, hgap, hn, hslot⟩ := h
  refine ⟨margin ++ opening ++ "def".toList ++ gap, slot, rest, ?_, hgap.unbegun _, hn, hslot⟩
  simp only [List.append_assoc]

end DiffReach.Source
