import DiffReach.Proofs.Patch.Scan

namespace DiffReach.Patch

open Text

structure Row where
  chars : List Char
  single : '\n' ∉ chars

inductive Line where
  | context (row : Row)
  | added (row : Row)
  | removed (row : Row)
  | marker

namespace Line

def render : Line → List Char
  | .context row => ' ' :: row.chars
  | .added row => '+' :: row.chars
  | .removed row => '-' :: row.chars
  | .marker => "\\ No newline at end of file".toList

theorem render_context (row : Row) : (context row).render = ' ' :: row.chars :=
  rfl

theorem render_added (row : Row) : (added row).render = '+' :: row.chars :=
  rfl

theorem render_removed (row : Row) : (removed row).render = '-' :: row.chars :=
  rfl

def isNew : Line → Bool
  | .context _ | .added _ => true
  | .removed _ | .marker => false

/-- An added line that looks like a file header. -/
def isMasked : Line → Bool
  | .added row => "++ ".toList.isPrefixOf row.chars
  | _ => false

end Line

structure Hunk where
  oldStart : Nat
  oldCount : Option Nat
  newStart : Nat
  newCount : Option Nat
  heading : Row
  body : List Line
  start_pos : (∃ line ∈ body, line.isNew = true) → 0 < newStart

def countText : Option Nat → List Char
  | none => []
  | some n => ',' :: Nat.toDigits 10 n

def range (start : Nat) (count : Option Nat) : List Char :=
  Nat.toDigits 10 start ++ countText count

namespace Hunk

def header (h : Hunk) : List Char :=
  "@@ -".toList ++ (range h.oldStart h.oldCount ++
    (" +".toList ++ (range h.newStart h.newCount ++ (" @@".toList ++ h.heading.chars))))

def lines (h : Hunk) : List (List Char) :=
  h.header :: h.body.map Line.render

def Numbers (h : Hunk) (line : Line) (n : Nat) : Prop :=
  ∃ before after, h.body = before ++ line :: after ∧ n = h.newStart + before.countP Line.isNew

def withoutMasked (h : Hunk) : Hunk where
  oldStart := h.oldStart
  oldCount := h.oldCount
  newStart := h.newStart
  newCount := h.newCount
  heading := h.heading
  body := h.body.filter fun line => !line.isMasked
  start_pos := fun ⟨line, hline, hnew⟩ => h.start_pos ⟨line, (List.mem_filter.mp hline).1, hnew⟩

end Hunk

/-- A patch: hunks, and before them file headers, which are any lines that begin no hunk. -/
structure Diff where
  preamble : List Row
  hunks : List Hunk
  preamble_plain : ∀ row ∈ preamble, ¬ "@@ -".toList <+: row.chars

namespace Diff

def lines (d : Diff) : List (List Char) :=
  d.preamble.map Row.chars ++ d.hunks.flatMap Hunk.lines

def render (d : Diff) : String :=
  String.ofList (['\n'].intercalate d.lines)

def AddedAt (d : Diff) (n : Nat) : Prop :=
  ∃ h ∈ d.hunks, ∃ row, h.Numbers (.added row) n

def ContextAt (d : Diff) (n : Nat) : Prop :=
  ∃ h ∈ d.hunks, ∃ row, h.Numbers (.context row) n

def withoutMasked (d : Diff) : Diff :=
  { d with hunks := d.hunks.map Hunk.withoutMasked }

def Unmasked (d : Diff) : Prop :=
  ∀ h ∈ d.hunks, ∀ line ∈ h.body, line.isMasked = false

def Short (d : Diff) : Prop :=
  ∀ h ∈ d.hunks, (Nat.toDigits 10 h.newStart).length ≤ Numeral.maxDigits

end Diff

theorem isRun_toDigits (n : Nat) : IsRun (Nat.toDigits 10 n) :=
  ⟨Nat.toDigits_ne_nil, fun _ => isDigit_of_mem_toDigits⟩

theorem isCount_countText (count : Option Nat) : IsCount (countText count) := by
  cases count with
  | none => exact .absent
  | some n => exact .present _ (isRun_toDigits n)

theorem headerStart?_header (h : Hunk) :
    headerStart? h.header = some (Nat.toDigits 10 h.newStart) := by
  refine IsHeader.headerStart? ⟨Nat.toDigits 10 h.oldStart, countText h.oldCount,
    countText h.newCount, h.heading.chars, ?_, isRun_toDigits _, isCount_countText _,
    isRun_toDigits _, isCount_countText _⟩
  simp only [Hunk.header, range, List.append_assoc]

theorem headerStart?_render (line : Line) : headerStart? line.render = none := by
  cases line with
  | context row => exact headerStart?_cons_eq_none (by decide) row.chars
  | added row => exact headerStart?_cons_eq_none (by decide) row.chars
  | removed row => exact headerStart?_cons_eq_none (by decide) row.chars
  | marker => exact headerStart?_cons_eq_none (by decide) _

theorem isAdded_render_added (row : Row) :
    isAdded (Line.added row).render = !(Line.added row).isMasked := by
  rw [Line.render_added, isAdded_cons, Line.isMasked]
  rfl

theorem isAdded_render_context (row : Row) : isAdded (Line.context row).render = false := by
  rw [Line.render_context, isAdded_cons]
  rfl

theorem isNumbered_render (line : Line) :
    isNumbered line.render = (line.isNew && !line.isMasked) := by
  cases line with
  | context row => rfl
  | added row =>
    rw [Line.render_added, isNumbered_cons, ← Line.render_added, isAdded_render_added]
    rfl
  | removed row =>
    rw [Line.render_removed, isNumbered_cons, isAdded_cons]
    rfl
  | marker => decide

section Scan

variable {next : Nat} {line : List Char} {rest : List (List Char)}

theorem addedFrom_render (line : Line) (h : line.isNew = true → 0 < next) :
    addedFrom next (line.render :: rest) =
      if line.isNew && !line.isMasked then
        (addedFrom (next + 1) rest).map fun added =>
          if isAdded line.render then next :: added else added
      else addedFrom next rest := by
  rw [addedFrom_of_not_header (headerStart?_render line), isNumbered_render]
  by_cases hnew : line.isNew = true
  · simp [h hnew]
  · simp [hnew]

theorem addedFrom_plain (h : ¬ "@@ -".toList <+: line) :
    addedFrom 0 (line :: rest) = addedFrom 0 rest := by
  rw [addedFrom_of_not_header (headerStart?_eq_none h), if_neg fun h => absurd h.1 (by decide)]

theorem addedFrom_header {h : Hunk}
    (hs : (Nat.toDigits 10 h.newStart).length ≤ Numeral.maxDigits) :
    addedFrom next (h.header :: rest) = addedFrom h.newStart rest := by
  conv_lhs => unfold addedFrom
  simp only [headerStart?_header, Numeral.natural_toDigits hs]

end Scan

def addedNumbers (next : Nat) : List Line → List Nat
  | [] => []
  | .added _ :: ls => next :: addedNumbers (next + 1) ls
  | .context _ :: ls => addedNumbers (next + 1) ls
  | .removed _ :: ls | .marker :: ls => addedNumbers next ls

theorem mem_addedNumbers {n next : Nat} {ls : List Line} :
    n ∈ addedNumbers next ls ↔ ∃ row before after, ls = before ++ .added row :: after ∧
      n = next + before.countP Line.isNew := by
  induction ls generalizing next with
  | nil => simp [addedNumbers]
  | cons line ls ih =>
    -- the line itself, or a line after it, which counts it as one before
    have hsplit : (∃ row before after, line :: ls = before ++ .added row :: after ∧
        n = next + before.countP Line.isNew) ↔ ((∃ row, line = .added row) ∧ n = next) ∨
          ∃ row before after, ls = before ++ .added row :: after ∧
            n = next + (line :: before).countP Line.isNew := by
      constructor
      · rintro ⟨row, before, after, heq, hn⟩
        cases before with
        | nil => exact Or.inl ⟨⟨row, (List.cons.inj heq).1⟩, by simpa using hn⟩
        | cons first before =>
          obtain ⟨rfl, rfl⟩ := List.cons.inj heq
          exact Or.inr ⟨row, before, after, rfl, hn⟩
      · rintro (⟨⟨row, rfl⟩, hn⟩ | ⟨row, before, after, rfl, hn⟩)
        · exact ⟨row, [], ls, rfl, by simpa using hn⟩
        · exact ⟨row, line :: before, after, rfl, hn⟩
    rw [hsplit]
    cases line with
    | added row =>
      simp only [addedNumbers, List.mem_cons, ih, List.countP_cons, Line.isNew, if_true]
      simp [Nat.add_assoc, Nat.add_comm 1]
    | context row =>
      simp only [addedNumbers, ih, List.countP_cons, Line.isNew, if_true]
      simp [Nat.add_assoc, Nat.add_comm 1]
    | removed row => simp [addedNumbers, ih, Line.isNew]
    | marker => simp [addedNumbers, ih, Line.isNew]

theorem addedFrom_body {next : Nat} {ls : List Line}
    (hpos : (∃ line ∈ ls, line.isNew = true) → 0 < next) :
    addedFrom next (ls.map Line.render) =
      .ok (addedNumbers next (ls.filter fun line => !line.isMasked)) := by
  induction ls generalizing next with
  | nil => rfl
  | cons line ls ih =>
    have hlater : (∃ line ∈ ls, line.isNew = true) → 0 < next := by
      rintro ⟨later, hmem, hnew⟩
      exact hpos ⟨later, List.mem_cons_of_mem _ hmem, hnew⟩
    rw [List.map_cons, addedFrom_render line fun hnew => hpos ⟨line, List.mem_cons_self, hnew⟩]
    cases line with
    | context row =>
      rw [ih fun _ => Nat.succ_pos next, isAdded_render_context]
      simp [Line.isNew, Line.isMasked, addedNumbers, Except.map]
    | added row =>
      rw [ih fun _ => Nat.succ_pos next, ih hlater, isAdded_render_added]
      cases hm : (Line.added row).isMasked <;> simp [Line.isNew, hm, addedNumbers, Except.map]
    | removed row =>
      rw [ih hlater]
      simp [Line.isNew, Line.isMasked, addedNumbers]
    | marker =>
      rw [ih hlater]
      simp [Line.isNew, Line.isMasked, addedNumbers]

theorem fresh_hunks (hunks : List Hunk) : Fresh (hunks.flatMap Hunk.lines) := by
  cases hunks with
  | nil => exact fun _ => rfl
  | cons h hunks => exact fresh_of_header (headerStart?_header h) _

theorem addedFrom_hunks {hunks : List Hunk}
    (hs : ∀ h ∈ hunks, (Nat.toDigits 10 h.newStart).length ≤ Numeral.maxDigits) :
    addedFrom 0 (hunks.flatMap Hunk.lines) =
      .ok (hunks.flatMap fun h => addedNumbers h.newStart h.withoutMasked.body) := by
  induction hunks with
  | nil => rfl
  | cons h hunks ih =>
    have hlater : ∀ h ∈ hunks, (Nat.toDigits 10 h.newStart).length ≤ Numeral.maxDigits :=
      fun h hmem => hs h (List.mem_cons_of_mem _ hmem)
    rw [List.flatMap_cons, Hunk.lines, List.cons_append,
      addedFrom_header (hs h List.mem_cons_self),
      addedFrom_append (fresh_hunks hunks) (addedFrom_body h.start_pos), ih hlater,
      List.flatMap_cons]
    rfl

theorem addedFrom_preamble {rows : List Row} (h : ∀ row ∈ rows, ¬ "@@ -".toList <+: row.chars)
    (rest : List (List Char)) : addedFrom 0 (rows.map Row.chars ++ rest) = addedFrom 0 rest := by
  induction rows with
  | nil => rfl
  | cons row rows ih =>
    rw [List.map_cons, List.cons_append, addedFrom_plain (h row List.mem_cons_self)]
    exact ih fun row hmem => h row (List.mem_cons_of_mem _ hmem)

theorem not_mem_range (start : Nat) (count : Option Nat) : '\n' ∉ range start count := by
  cases count with
  | none => simpa [range, countText] using not_mem_toDigits start
  | some n => simp [range, countText, not_mem_toDigits]

theorem Line.not_mem_render (line : Line) : '\n' ∉ line.render := by
  cases line with
  | context row => simpa [render_context] using row.single
  | added row => simpa [render_added] using row.single
  | removed row => simpa [render_removed] using row.single
  | marker => decide

theorem Hunk.not_mem_header (h : Hunk) : '\n' ∉ h.header := by
  simp [header, not_mem_range, h.heading.single]

theorem Diff.not_mem_lines (d : Diff) : ∀ line ∈ d.lines, '\n' ∉ line := by
  intro line hline
  rcases List.mem_append.mp hline with hline | hline
  · obtain ⟨row, _, rfl⟩ := List.mem_map.mp hline
    exact row.single
  · obtain ⟨h, _, hline⟩ := List.mem_flatMap.mp hline
    rcases List.mem_cons.mp hline with rfl | hline
    · exact h.not_mem_header
    · obtain ⟨line, _, rfl⟩ := List.mem_map.mp hline
      exact line.not_mem_render

theorem addedFrom_splitOn_render (d : Diff) :
    addedFrom 0 (splitOn '\n' d.render.toList) = addedFrom 0 d.lines := by
  rw [Diff.render, String.toList_ofList]
  by_cases hne : d.lines = []
  · rw [hne]
    rfl
  · rw [splitOn_intercalate hne d.not_mem_lines]

theorem changedLines_render_eq (d : Diff) (hs : d.Short) :
    changedLines d.render = .ok (Ascending.ofList ((d.hunks.flatMap fun h =>
      addedNumbers h.newStart h.withoutMasked.body).map Int.ofNat)) := by
  apply changedLines_of_addedFrom
  rw [addedFrom_splitOn_render, Diff.lines, addedFrom_preamble d.preamble_plain,
    addedFrom_hunks hs]

theorem Diff.addedAt_iff {d : Diff} {n : Nat} :
    d.AddedAt n ↔ n ∈ d.hunks.flatMap fun h => addedNumbers h.newStart h.body := by
  simp only [AddedAt, Hunk.Numbers, List.mem_flatMap, mem_addedNumbers]

theorem mem_changed_iff (d : Diff) (n : Int) :
    n ∈ Ascending.ofList ((d.hunks.flatMap fun h =>
        addedNumbers h.newStart h.withoutMasked.body).map Int.ofNat) ↔
      ∃ k : Nat, n = k ∧ d.withoutMasked.AddedAt k := by
  simp only [mem_ascending_iff, Diff.addedAt_iff, Diff.withoutMasked, List.flatMap_map]
  rfl

theorem Hunk.withoutMasked_eq {h : Hunk} (hplain : ∀ line ∈ h.body, line.isMasked = false) :
    h.withoutMasked = h := by
  have hbody : (h.body.filter fun line => !line.isMasked) = h.body :=
    List.filter_eq_self.mpr fun line hline => by simp [hplain line hline]
  cases h
  simp [withoutMasked, hbody]

theorem Diff.withoutMasked_eq {d : Diff} (h : d.Unmasked) : d.withoutMasked = d := by
  have hhunks : d.hunks.map Hunk.withoutMasked = d.hunks := by
    rw [List.map_congr_left fun hunk hmem => Hunk.withoutMasked_eq (h hunk hmem)]
    exact List.map_id _
  cases d
  simp [withoutMasked, hhunks]

theorem changedLines_render (d : Diff) (hs : d.Short) :
    ∃ changed, changedLines d.render = .ok changed ∧ changed.Pairwise (· < ·) ∧
      (∀ n : Int, n ∈ changed ↔ ∃ k : Nat, n = k ∧ d.withoutMasked.AddedAt k) ∧
      (d.Unmasked → (∀ n : Int, n ∈ changed ↔ ∃ k : Nat, n = k ∧ d.AddedAt k) ∧
        ∀ k : Nat, d.ContextAt k → ¬ d.AddedAt k → (k : Int) ∉ changed) := by
  refine ⟨_, changedLines_render_eq d hs, Ascending.pairwise_ofList _, mem_changed_iff d, ?_⟩
  intro hplain
  have hadded := mem_changed_iff d
  rw [Diff.withoutMasked_eq hplain] at hadded
  refine ⟨hadded, ?_⟩
  rintro k - hnot hmem
  obtain ⟨j, hj, hat⟩ := (hadded k).mp hmem
  exact hnot (Int.ofNat.inj hj ▸ hat)

/-- Two hunks after the headers of their file, with removed lines that look like such headers. -/
def describedDiff : Diff where
  preamble := [⟨"diff --git a/x.py b/x.py".toList, by decide⟩, ⟨"--- a/x.py".toList, by decide⟩,
    ⟨"+++ b/x.py".toList, by decide⟩]
  hunks := [
    { oldStart := 1, oldCount := some 2, newStart := 1, newCount := some 3
      heading := ⟨[], by decide⟩
      body := [.context ⟨"a".toList, by decide⟩, .removed ⟨"-- b".toList, by decide⟩,
        .added ⟨"@@ -1 +7 @@".toList, by decide⟩, .added ⟨"++c".toList, by decide⟩]
      start_pos := fun _ => by decide },
    { oldStart := 40, oldCount := none, newStart := 41, newCount := none
      heading := ⟨" def handler():".toList, by decide⟩
      body := [.removed ⟨"old".toList, by decide⟩, .marker, .added ⟨"new".toList, by decide⟩,
        .marker]
      start_pos := fun _ => by decide }]
  preamble_plain := by decide

theorem changedLines_render_described :
    describedDiff.Short ∧ describedDiff.Unmasked ∧ ∃ changed,
      changedLines describedDiff.render = .ok changed ∧
      (∀ n : Int, n ∈ changed ↔ ∃ k : Nat, n = k ∧ describedDiff.AddedAt k) ∧
      ∀ k : Nat, describedDiff.ContextAt k → ¬ describedDiff.AddedAt k → (k : Int) ∉ changed := by
  have hshort : describedDiff.Short := by
    simp only [Diff.Short, describedDiff, List.mem_cons, List.not_mem_nil, or_false,
      forall_eq_or_imp, forall_eq]
    decide
  have hplain : describedDiff.Unmasked := by
    simp only [Diff.Unmasked, describedDiff, List.mem_cons, List.not_mem_nil, or_false,
      forall_eq_or_imp, forall_eq]
    decide
  obtain ⟨changed, hread, _, _, hall⟩ := changedLines_render describedDiff hshort
  exact ⟨hshort, hplain, changed, hread, hall hplain⟩

/-- The second line of the new file is added and looks like a file header. -/
def maskedDiff : Diff where
  preamble := []
  hunks := [
    { oldStart := 1, oldCount := some 2, newStart := 1, newCount := some 4
      heading := ⟨[], by decide⟩
      body := [.context ⟨"a".toList, by decide⟩, .added ⟨"++ i".toList, by decide⟩,
        .context ⟨"b".toList, by decide⟩, .added ⟨"c".toList, by decide⟩]
      start_pos := fun _ => by decide }]
  preamble_plain := by decide

theorem changedLines_masked :
    maskedDiff.render = "@@ -1,2 +1,4 @@\n a\n+++ i\n b\n+c" ∧
      changedLines maskedDiff.render = .ok [3] ∧
      maskedDiff.AddedAt 2 ∧ maskedDiff.AddedAt 4 ∧ maskedDiff.ContextAt 3 ∧
      ¬ maskedDiff.AddedAt 3 := by
  refine ⟨by decide +kernel, by decide +kernel, ?_, ?_, ?_, ?_⟩
  · exact Diff.addedAt_iff.mpr (by decide)
  · exact Diff.addedAt_iff.mpr (by decide)
  · exact ⟨_, List.mem_singleton_self _, _, [_, _], [_], rfl, rfl⟩
  · exact fun h => absurd (Diff.addedAt_iff.mp h) (by decide)

end DiffReach.Patch
