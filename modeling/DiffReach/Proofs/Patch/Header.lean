import DiffReach.Patch
import DiffReach.Proofs.Basic
import DiffReach.Proofs.Text.Rendering

namespace DiffReach.Patch

open Text

def IsRun (run : List Char) : Prop :=
  run ≠ [] ∧ ∀ c ∈ run, isDigit c = true

inductive IsCount : List Char → Prop
  | absent : IsCount []
  | present (run : List Char) : IsRun run → IsCount (',' :: run)

def IsHeader (line start : List Char) : Prop :=
  ∃ old oldCount newCount rest, line = "@@ -".toList ++ (old ++ (oldCount ++
      (" +".toList ++ (start ++ (newCount ++ (" @@".toList ++ rest)))))) ∧
    IsRun old ∧ IsCount oldCount ∧ IsRun start ∧ IsCount newCount

variable {line start run cs rest : List Char}

theorem digitRun?_append (h : IsRun run) {c : Char} (hc : isDigit c = false) (rest : List Char) :
    digitRun? (run ++ c :: rest) = some (run, c :: rest) := by
  obtain ⟨hne, hdigits⟩ := h
  rw [digitRun?, List.takeWhile_append_of_pos hdigits, List.takeWhile_cons_of_neg (by simp [hc]),
    List.append_nil, List.dropWhile_append_of_pos hdigits,
    List.dropWhile_cons_of_neg (by simp [hc])]
  cases run with
  | nil => exact absurd rfl hne
  | cons d ds => rfl

theorem of_digitRun? (h : digitRun? cs = some (run, rest)) : IsRun run ∧ cs = run ++ rest := by
  rw [digitRun?] at h
  split at h
  · cases h
  · rename_i hne
    obtain ⟨rfl, rfl⟩ := Prod.mk.inj (Option.some.inj h)
    refine ⟨⟨hne, fun c hc => List.mem_takeWhile_imp hc⟩, ?_⟩
    rw [List.takeWhile_append_dropWhile]

theorem exists_count (cs : List Char) : ∃ count, IsCount count ∧ cs = count ++ skipCount cs := by
  have habsent : ∃ count, IsCount count ∧ cs = count ++ cs := ⟨[], .absent, rfl⟩
  unfold skipCount
  split
  · rename_i rest
    split
    · rename_i run after hrun
      obtain ⟨hdigits, rfl⟩ := of_digitRun? hrun
      exact ⟨',' :: run, .present run hdigits, rfl⟩
    · exact habsent
  · exact habsent

theorem IsCount.digitRun? {count : List Char} (h : IsCount count) (hrun : IsRun run)
    (rest : List Char) :
    digitRun? (run ++ (count ++ ' ' :: rest)) = some (run, count ++ ' ' :: rest) := by
  cases h with
  | absent => exact digitRun?_append hrun (by decide) rest
  | present digits _ => exact digitRun?_append hrun (by decide) (digits ++ ' ' :: rest)

theorem IsCount.skipCount {count : List Char} (h : IsCount count) (rest : List Char) :
    skipCount (count ++ ' ' :: rest) = ' ' :: rest := by
  cases h with
  | absent => rfl
  | present digits hdigits =>
    rw [List.cons_append, Patch.skipCount, digitRun?_append hdigits (by decide) rest]

theorem isHeader_of_headerStart? (h : headerStart? line = some start) : IsHeader line start := by
  simp only [headerStart?, Option.bind_eq_bind, Option.bind_eq_some_iff, Option.pure_def,
    Option.some.injEq, Prod.exists] at h
  obtain ⟨afterAt, hat, old, afterOld, hold, afterPlus, hplus, new, afterNew, hnew, rest, hend,
    rfl⟩ := h
  obtain ⟨holdRun, rfl⟩ := of_digitRun? hold
  obtain ⟨hnewRun, rfl⟩ := of_digitRun? hnew
  obtain ⟨oldCount, holdCount, hafterOld⟩ := exists_count afterOld
  obtain ⟨newCount, hnewCount, hafterNew⟩ := exists_count afterNew
  rw [← List.isPrefixOf?_eq_some_iff_append_eq.mp hplus] at hafterOld
  rw [← List.isPrefixOf?_eq_some_iff_append_eq.mp hend] at hafterNew
  refine ⟨old, oldCount, newCount, rest, ?_, holdRun, holdCount, hnewRun, hnewCount⟩
  rw [← List.isPrefixOf?_eq_some_iff_append_eq.mp hat, hafterOld, hafterNew]

theorem IsHeader.headerStart? (h : IsHeader line start) : headerStart? line = some start := by
  obtain ⟨old, oldCount, newCount, rest, rfl, hold, holdCount, hnew, hnewCount⟩ := h
  -- each part of the header ends at the blank before the next
  have hplus (rest : List Char) : " +".toList ++ rest = ' ' :: ('+' :: rest) := by simp
  have hat (rest : List Char) : " @@".toList ++ rest = ' ' :: ('@' :: '@' :: rest) := by simp
  have hplus' (rest : List Char) : " +".toList.isPrefixOf? (' ' :: '+' :: rest) = some rest := by
    rw [← hplus, isPrefixOf?_append]
  have hat' (rest : List Char) :
      " @@".toList.isPrefixOf? (' ' :: '@' :: '@' :: rest) = some rest := by
    rw [← hat, isPrefixOf?_append]
  rw [Patch.headerStart?, isPrefixOf?_append, hplus, hat]
  simp only [Option.bind_eq_bind, Option.bind_some, holdCount.digitRun? hold, holdCount.skipCount,
    hplus', hnewCount.digitRun? hnew, hnewCount.skipCount, hat']
  rfl

theorem headerStart?_eq_some_iff : headerStart? line = some start ↔ IsHeader line start :=
  ⟨isHeader_of_headerStart?, IsHeader.headerStart?⟩

theorem headerStart?_eq_none_iff : headerStart? line = none ↔ ∀ start, ¬ IsHeader line start := by
  rw [Option.eq_none_iff_forall_ne_some]
  exact forall_congr' fun start => not_congr headerStart?_eq_some_iff

theorem headerStart?_eq_none (h : ¬ "@@ -".toList <+: line) : headerStart? line = none := by
  rw [headerStart?_eq_none_iff]
  rintro start ⟨old, oldCount, newCount, rest, rfl, -⟩
  exact h (List.prefix_append _ _)

theorem headerStart?_cons_eq_none {c : Char} (hc : c ≠ '@') (cs : List Char) :
    headerStart? (c :: cs) = none := by
  have hat : "@@ -".toList = ['@', '@', ' ', '-'] := by decide
  apply headerStart?_eq_none
  rw [hat, List.cons_prefix_cons]
  exact fun h => hc h.1.symm

theorem IsRun.not_mem_feed (h : IsRun run) : '\n' ∉ run :=
  fun hmem => absurd (h.2 _ hmem) (by decide)

theorem IsCount.not_mem_feed {count : List Char} (h : IsCount count) : '\n' ∉ count := by
  cases h with
  | absent => exact List.not_mem_nil
  | present run hrun => simp [hrun.not_mem_feed]

/-- What makes a line a header stands before its first line feed, so the first line of a text that
begins with a header is one too. -/
theorem IsHeader.splitOn (h : IsHeader cs start) :
    ∃ first parts, splitOn '\n' cs = first :: parts ∧ IsHeader first start := by
  obtain ⟨old, oldCount, newCount, rest, rfl, hold, holdCount, hstart, hnewCount⟩ := h
  have hfront : '\n' ∉ "@@ -".toList ++ (old ++ (oldCount ++ (" +".toList ++ (start ++
      (newCount ++ " @@".toList))))) := by
    simp [hold.not_mem_feed, holdCount.not_mem_feed, hstart.not_mem_feed, hnewCount.not_mem_feed]
  obtain ⟨first, parts, -, hparts⟩ := exists_splitOn_append hfront rest
  simp only [List.append_assoc] at hparts
  exact ⟨_, parts, hparts, old, oldCount, newCount, first, rfl, hold, holdCount, hstart, hnewCount⟩

end DiffReach.Patch
