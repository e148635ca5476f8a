import DiffReach.Number.Numeral
import DiffReach.Text.Lines
import Mathlib.Tactic.IntervalCases

namespace DiffReach

namespace Text

theorem splitOn_cons (sep c : Char) (cs : List Char) :
    splitOn sep (c :: cs) = consSplit sep c (splitOn sep cs) :=
  rfl

theorem splitOn_eq (sep : Char) (cs : List Char) : splitOn sep cs = cs.splitOn sep := by
  induction cs with
  | nil => rfl
  | cons c cs ih =>
    obtain ⟨part, parts, hparts⟩ := List.exists_cons_of_ne_nil (List.splitOn_ne_nil sep cs)
    rw [splitOn_cons, ih, List.splitOn_cons_eq_if_modifyHead, hparts, consSplit]
    by_cases h : c = sep
    · simp [h]
    · simp [h]

theorem splitOn_intercalate {sep : Char} {parts : List (List Char)} (hne : parts ≠ [])
    (h : ∀ part ∈ parts, sep ∉ part) : splitOn sep ([sep].intercalate parts) = parts := by
  rw [splitOn_eq]
  exact List.splitOn_intercalate sep h hne

theorem exists_splitOn_append {sep : Char} {part : List Char} (h : sep ∉ part) (cs : List Char) :
    ∃ first parts, splitOn sep cs = first :: parts ∧
      splitOn sep (part ++ cs) = (part ++ first) :: parts := by
  induction part with
  | nil =>
    rw [List.nil_append, splitOn_eq]
    obtain ⟨first, parts, hparts⟩ := List.exists_cons_of_ne_nil (List.splitOn_ne_nil sep cs)
    exact ⟨first, parts, hparts, hparts⟩
  | cons c part ih =>
    obtain ⟨hc, hpart⟩ := not_or.mp (mt List.mem_cons.mpr h)
    obtain ⟨first, parts, hcs, hjoined⟩ := ih hpart
    refine ⟨first, parts, hcs, ?_⟩
    rw [List.cons_append, splitOn_cons, hjoined, consSplit, if_neg (Ne.symm hc), List.cons_append]

theorem splitOn_append_cons {sep : Char} {part : List Char} (h : sep ∉ part) (cs : List Char) :
    splitOn sep (part ++ sep :: cs) = part :: splitOn sep cs := by
  obtain ⟨first, parts, hcs, hjoined⟩ := exists_splitOn_append h (sep :: cs)
  have hsep : splitOn sep (sep :: cs) = [] :: splitOn sep cs := if_pos rfl
  rw [hsep] at hcs
  obtain ⟨rfl, rfl⟩ := List.cons.inj hcs
  rw [hjoined, List.append_nil]

def OneLine (s : String) : Prop :=
  '\n' ∉ s.toList

instance (s : String) : Decidable (OneLine s) :=
  inferInstanceAs (Decidable (¬ _))

theorem OneLine.append {s t : String} (hs : OneLine s) (ht : OneLine t) : OneLine (s ++ t) := by
  rw [OneLine, String.toList_append, List.mem_append]
  exact not_or.mpr ⟨hs, ht⟩

theorem lines_unlines_cons {line : String} (h : OneLine line) {ls : List String}
    (hne : ls ≠ []) : lines (unlines (line :: ls)) = line :: lines (unlines ls) := by
  have hjoin : (unlines (line :: ls)).toList = line.toList ++ '\n' :: (unlines ls).toList := by
    rw [unlines, String.intercalate_cons_of_ne_nil hne]
    simp [unlines]
  rw [lines, hjoin, splitOn_append_cons h, List.map_cons, String.ofList_toList]
  rfl

theorem lines_unlines_append {ls ms : List String} (h : ∀ line ∈ ls, OneLine line)
    (hne : ms ≠ []) : lines (unlines (ls ++ ms)) = ls ++ lines (unlines ms) := by
  induction ls with
  | nil => rfl
  | cons line ls ih =>
    obtain ⟨hline, hls⟩ := List.forall_mem_cons.mp h
    rw [List.cons_append, lines_unlines_cons hline (List.append_ne_nil_of_right_ne_nil ls hne),
      ih hls, List.cons_append]

theorem lines_unlines {ls : List String} (hne : ls ≠ []) (h : ∀ line ∈ ls, OneLine line) :
    lines (unlines ls) = ls := by
  have hparts : ∀ part ∈ ls.map String.toList, '\n' ∉ part := List.forall_mem_map.mpr h
  have hsplit := splitOn_intercalate (mt List.map_eq_nil_iff.mp hne) hparts
  rw [lines, unlines, String.toList_intercalate]
  change (splitOn '\n' (['\n'].intercalate _)).map String.ofList = ls
  simp [hsplit, Function.comp_def]

theorem digitValue?_digitChar {d : Nat} (h : d < 10) : digitValue? (Nat.digitChar d) = some d := by
  interval_cases d <;> rfl

theorem digitValues_toDigits (n : Nat) : ((Nat.toDigits 10 n).filterMap digitValue?).length =
      (Nat.toDigits 10 n).length ∧
    Binary64.valueOf ((Nat.toDigits 10 n).filterMap digitValue?) = n := by
  induction n using Nat.strongRecOn with
  | ind n ih =>
    rw [Nat.toDigits_eq_if (by decide)]
    split
    · rename_i hlt
      simp [digitValue?_digitChar hlt, Binary64.valueOf]
    · rename_i hge
      obtain ⟨hlength, hvalue⟩ := ih (n / 10) (by omega)
      have hlast : n % 10 < 10 := Nat.mod_lt n (by decide)
      rw [List.filterMap_append]
      simp only [List.filterMap_cons, digitValue?_digitChar hlast, List.filterMap_nil,
        List.length_append, hlength, List.length_singleton, true_and]
      rw [Binary64.valueOf] at hvalue ⊢
      rw [List.foldl_append, hvalue]
      simp only [List.foldl_cons, List.foldl_nil]
      omega

theorem isDigit_of_mem_toDigits {n : Nat} {c : Char} (h : c ∈ Nat.toDigits 10 n) :
    isDigit c = true := by
  induction n using Nat.strongRecOn with
  | ind n ih =>
    rw [Nat.toDigits_eq_if (by decide)] at h
    split at h
    · rename_i hlt
      obtain rfl := List.mem_singleton.mp h
      simp [isDigit, digitValue?_digitChar hlt]
    · rcases List.mem_append.mp h with h | h
      · exact ih (n / 10) (by omega) h
      · obtain rfl := List.mem_singleton.mp h
        simp [isDigit, digitValue?_digitChar (Nat.mod_lt n (by decide : 0 < 10))]

theorem not_mem_toDigits (n : Nat) : '\n' ∉ Nat.toDigits 10 n := by
  intro h
  exact absurd (isDigit_of_mem_toDigits h) (by decide)

theorem oneLine_toString (n : Nat) : OneLine (toString n) := by
  rw [OneLine, Nat.toString_eq_repr, Nat.toList_repr]
  exact not_mem_toDigits n

theorem oneLine_toString_int (n : Int) : OneLine (toString n) := by
  cases n with
  | ofNat n => exact oneLine_toString n
  | negSucc n => exact .append (s := "-") (by decide) (oneLine_toString (n + 1))

end Text

theorem Numeral.natural_toDigits {n : Nat} (h : (Nat.toDigits 10 n).length ≤ maxDigits) :
    natural ((Nat.toDigits 10 n).filterMap Text.digitValue?) = .ok n := by
  obtain ⟨hlength, hvalue⟩ := Text.digitValues_toDigits n
  rw [natural, hlength, if_neg (by omega), hvalue]

end DiffReach
