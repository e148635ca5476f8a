import DiffReach.Proofs.Ascending
import DiffReach.Proofs.Patch.Header
import DiffReach.Proofs.Text.Rendering

namespace DiffReach.Patch

open Text

def isAdded (line : List Char) : Bool :=
  line.head? == some '+' && !"+++ ".toList.isPrefixOf line

def isNumbered (line : List Char) : Bool :=
  line.head? == some ' ' || isAdded line

def startLine (start : List Char) : Nat :=
  Binary64.valueOf (start.filterMap digitValue?)

section Step

variable {next : Nat} {line : List Char} {rest : List (List Char)}

theorem isNumbered_of_isAdded (h : isAdded line = true) : isNumbered line = true := by
  rw [isNumbered, h, Bool.or_true]

theorem headerStart?_of_isNumbered (h : isNumbered line = true) : headerStart? line = none := by
  apply headerStart?_eq_none
  rintro ⟨rest, rfl⟩
  cases h

theorem isFileHeader_cons (c : Char) (cs : List Char) : isFileHeader (c :: cs) =
    (c == '+' && "++ ".toList.isPrefixOf cs || c == '-' && "-- ".toList.isPrefixOf cs) := by
  have hplus : "+++ ".toList = '+' :: "++ ".toList := by decide
  have hminus : "--- ".toList = '-' :: "-- ".toList := by decide
  rw [isFileHeader, hplus, hminus, List.isPrefixOf, List.isPrefixOf, BEq.comm,
    @BEq.comm _ _ _ _ c]

theorem isAdded_cons (c : Char) (cs : List Char) :
    isAdded (c :: cs) = (c == '+' && !"++ ".toList.isPrefixOf cs) := by
  have hplus : "+++ ".toList = '+' :: "++ ".toList := by decide
  rw [isAdded, hplus, List.isPrefixOf, List.head?_cons]
  cases hc : c == '+' with
  | false => simp_all
  | true => simp_all

theorem isNumbered_cons (c : Char) (cs : List Char) :
    isNumbered (c :: cs) = (c == ' ' || isAdded (c :: cs)) := by
  simp [isNumbered]

theorem addedFrom_of_not_header (hn : headerStart? line = none) : addedFrom next (line :: rest) =
    if 0 < next ∧ isNumbered line = true then
      (addedFrom (next + 1) rest).map fun added => if isAdded line then next :: added else added
    else addedFrom next rest := by
  conv_lhs => unfold addedFrom
  simp only [hn]
  by_cases hnext : next = 0
  · simp [hnext]
  have hpos : 0 < next := Nat.pos_of_ne_zero hnext
  cases line with
  | nil => simp [hnext, isNumbered, isAdded, show isFileHeader [] = false from rfl]
  | cons c cs =>
    by_cases hplus : c = '+'
    · subst hplus
      simp only [isFileHeader_cons, isNumbered_cons, isAdded_cons]
      cases "++ ".toList.isPrefixOf cs <;> simp [hnext, hpos]
    · by_cases hblank : c = ' '
      · subst hblank
        have hmap : (addedFrom (next + 1) rest).map (fun added => added) =
            addedFrom (next + 1) rest := by cases addedFrom (next + 1) rest <;> rfl
        simp [isFileHeader_cons, isNumbered_cons, isAdded_cons, hnext, hpos, hmap]
      · simp [isNumbered_cons, isAdded_cons, hplus, hblank]

theorem addedFrom_of_header {start : List Char} (h : headerStart? line = some start) :
    addedFrom next (line :: rest) =
      if start.length ≤ Numeral.maxDigits then addedFrom (startLine start) rest
      else .error .tooManyDigits := by
  have hlength : (start.filterMap digitValue?).length = start.length := by
    obtain ⟨-, -, -, -, -, -, -, ⟨-, hdigits⟩, -⟩ := isHeader_of_headerStart? h
    rw [List.length_filterMap_eq_countP, List.countP_eq_length]
    exact hdigits
  conv_lhs => unfold addedFrom
  simp only [h, Numeral.natural, hlength]
  by_cases hlong : Numeral.maxDigits < start.length
  · simp [hlong, Nat.not_le_of_lt hlong]
  · simp [hlong, Nat.le_of_not_lt hlong, startLine]

end Step

/-- Where a hunk starts at a line, one of its added lines has a number: that of the start, and one
more for each line of the new file between. -/
def InHunk (start : Nat) (ls : List (List Char)) (n : Nat) : Prop :=
  0 < start ∧ ∃ between line after, ls = between ++ line :: after ∧
    (∀ other ∈ between, ∀ digits, ¬ IsHeader other digits) ∧ isAdded line = true ∧
    n = start + between.countP isNumbered

def AddedAt (ls : List (List Char)) (n : Nat) : Prop :=
  ∃ before header start after, ls = before ++ header :: after ∧ IsHeader header start ∧
    InHunk (startLine start) after n

section Position

variable {next n : Nat} {line : List Char} {ls rest : List (List Char)}

theorem inHunk_cons_iff : InHunk next (line :: rest) n ↔ 0 < next ∧
    (isAdded line = true ∧ n = next ∨
      headerStart? line = none ∧ InHunk (next + if isNumbered line then 1 else 0) rest n) := by
  rw [InHunk]
  refine and_congr_right fun hpos => ?_
  constructor
  · rintro ⟨between, found, after, heq, hplain, hadded, rfl⟩
    cases between with
    | nil =>
      obtain ⟨rfl, rfl⟩ := List.cons.inj heq
      exact Or.inl ⟨hadded, rfl⟩
    | cons first between =>
      obtain ⟨rfl, rfl⟩ := List.cons.inj heq
      obtain ⟨hfirst, hplain⟩ := List.forall_mem_cons.mp hplain
      refine Or.inr ⟨headerStart?_eq_none_iff.mpr hfirst, by omega, between, found, after, rfl,
        hplain, hadded, ?_⟩
      rw [List.countP_cons]
      omega
  · rintro (⟨hadded, rfl⟩ | ⟨hline, -, between, found, after, rfl, hplain, hadded, rfl⟩)
    · exact ⟨[], line, rest, rfl, List.forall_mem_nil _, hadded, rfl⟩
    · refine ⟨line :: between, found, after, rfl, ?_, hadded, ?_⟩
      · exact List.forall_mem_cons.mpr ⟨headerStart?_eq_none_iff.mp hline, hplain⟩
      · rw [List.countP_cons]
        omega

theorem addedAt_cons_iff : AddedAt (line :: rest) n ↔
    (∃ start, headerStart? line = some start ∧ InHunk (startLine start) rest n) ∨
      AddedAt rest n := by
  simp only [headerStart?_eq_some_iff]
  constructor
  · rintro ⟨before, header, start, after, heq, hheader, hin⟩
    cases before with
    | nil =>
      obtain ⟨rfl, rfl⟩ := List.cons.inj heq
      exact Or.inl ⟨start, hheader, hin⟩
    | cons first before =>
      obtain ⟨rfl, rfl⟩ := List.cons.inj heq
      exact Or.inr ⟨before, header, start, after, rfl, hheader, hin⟩
  · rintro (⟨start, hheader, hin⟩ | ⟨before, header, start, after, rfl, hheader, hin⟩)
    · exact ⟨[], line, start, rest, rfl, hheader, hin⟩
    · exact ⟨line :: before, header, start, after, rfl, hheader, hin⟩

/-- The number of the next line is zero before the first hunk and in hunks that start at no line;
there the first part never holds, and only lines after a later header count. -/
theorem mem_addedFrom_iff {added : List Nat} (h : addedFrom next ls = .ok added) :
    n ∈ added ↔ InHunk next ls n ∨ AddedAt ls n := by
  induction ls generalizing next added with
  | nil =>
    obtain rfl := Except.ok.inj h
    simp [InHunk, AddedAt]
  | cons line rest ih =>
    rw [inHunk_cons_iff, addedAt_cons_iff]
    cases hstart : headerStart? line with
    | some start =>
      have hadded : ¬ isAdded line = true := fun h =>
        absurd (headerStart?_of_isNumbered (isNumbered_of_isAdded h)) (by simp [hstart])
      rw [addedFrom_of_header hstart] at h
      split at h
      · simp [ih h, hadded]
      · cases h
    | none =>
      rw [addedFrom_of_not_header hstart] at h
      split at h
      · rename_i hread
        cases htail : addedFrom (next + 1) rest with
        | error fault =>
          rw [htail] at h
          cases h
        | ok tail =>
          rw [htail] at h
          obtain rfl := Except.ok.inj h
          by_cases hadded : isAdded line = true
          · simp [hread, hadded, ih htail, or_assoc]
          · simp [hread, hadded, ih htail]
      · rename_i hidle
        by_cases hnext : 0 < next
        · have hnumber : ¬ isNumbered line = true := fun hline => hidle ⟨hnext, hline⟩
          have hadded : ¬ isAdded line = true := mt isNumbered_of_isAdded hnumber
          simp [hnext, hnumber, hadded, ih h]
        · simp [hnext, ih h, InHunk]

end Position

def isRead (line : List Char) : Bool :=
  (headerStart? line).isSome || isNumbered line

inductive IsIdle : List Char → Prop
  | blank : IsIdle []
  | removed (text : List Char) : IsIdle ('-' :: text)
  | marker (text : List Char) : IsIdle ('\\' :: text)
  | malformed (text : List Char) : (∀ start, ¬ IsHeader ('@' :: text) start) → IsIdle ('@' :: text)

theorem IsIdle.isRead {line : List Char} (h : IsIdle line) : isRead line = false := by
  have hunread {c : Char} {text : List Char} (hn : headerStart? (c :: text) = none)
      (hblank : c ≠ ' ') (hplus : c ≠ '+') : Patch.isRead (c :: text) = false := by
    simp [Patch.isRead, hn, isNumbered_cons, isAdded_cons, hblank, hplus]
  cases h with
  | blank => decide
  | removed text => exact hunread (headerStart?_cons_eq_none (by decide) _) (by decide) (by decide)
  | marker text => exact hunread (headerStart?_cons_eq_none (by decide) _) (by decide) (by decide)
  | malformed text hn => exact hunread (headerStart?_eq_none_iff.mpr hn) (by decide) (by decide)

theorem addedFrom_filter (next : Nat) (ls : List (List Char)) :
    addedFrom next (ls.filter isRead) = addedFrom next ls := by
  induction ls generalizing next with
  | nil => rfl
  | cons line rest ih =>
    cases hstart : headerStart? line with
    | some start =>
      rw [List.filter_cons_of_pos (by simp [isRead, hstart]), addedFrom_of_header hstart,
        addedFrom_of_header hstart, ih]
    | none =>
      rw [addedFrom_of_not_header hstart]
      by_cases hnumber : isNumbered line = true
      · rw [List.filter_cons_of_pos (by simp [isRead, hnumber]), addedFrom_of_not_header hstart, ih,
          ih]
      · rw [List.filter_cons_of_neg (by simp [isRead, hstart, hnumber]), ih,
          if_neg fun h => hnumber h.2]

/-- Where a scan goes on in the same way whatever the number of the next line. -/
def Fresh (rest : List (List Char)) : Prop :=
  ∀ next, addedFrom next rest = addedFrom 0 rest

theorem fresh_of_header {line start : List Char} (h : headerStart? line = some start)
    (rest : List (List Char)) : Fresh (line :: rest) := by
  intro next
  rw [addedFrom_of_header h, addedFrom_of_header h]

theorem addedFrom_append {next : Nat} {ls rest : List (List Char)} {added : List Nat}
    (hrest : Fresh rest) (h : addedFrom next ls = .ok added) :
    addedFrom next (ls ++ rest) = (addedFrom 0 rest).map (added ++ ·) := by
  induction ls generalizing next added with
  | nil =>
    obtain rfl := Except.ok.inj h
    rw [List.nil_append, hrest next]
    cases addedFrom 0 rest <;> rfl
  | cons line ls ih =>
    rw [List.cons_append]
    cases hstart : headerStart? line with
    | some start =>
      rw [addedFrom_of_header hstart] at h ⊢
      split at h
      · rw [if_pos ‹_›, ih h]
      · cases h
    | none =>
      rw [addedFrom_of_not_header hstart] at h ⊢
      split at h
      · cases hls : addedFrom (next + 1) ls with
        | error fault =>
          rw [hls] at h
          cases h
        | ok tail =>
          rw [hls] at h
          obtain rfl := Except.ok.inj h
          rw [if_pos ‹_›, ih hls]
          cases addedFrom 0 rest with
          | error fault => rfl
          | ok later => split <;> simp [Except.map, *]
      · rw [if_neg ‹_›, ih h]

def ShortStarts (patch : String) : Prop :=
  ∀ line ∈ splitOn '\n' patch.toList,
    ((headerStart? line).getD []).length ≤ Numeral.maxDigits

theorem exists_addedFrom {lines : List (List Char)}
    (h : ∀ line ∈ lines, ((headerStart? line).getD []).length ≤ Numeral.maxDigits) (next : Nat) :
    ∃ added, addedFrom next lines = .ok added := by
  induction lines generalizing next with
  | nil => exact ⟨[], rfl⟩
  | cons line rest ih =>
    have hrest := ih fun line hline => h line (List.mem_cons_of_mem _ hline)
    cases hstart : headerStart? line with
    | some start =>
      have hshort := h line List.mem_cons_self
      rw [hstart, Option.getD_some] at hshort
      rw [addedFrom_of_header hstart, if_pos hshort]
      exact hrest _
    | none =>
      rw [addedFrom_of_not_header hstart]
      split
      · obtain ⟨added, hadded⟩ := hrest (next + 1)
        exact ⟨_, by rw [hadded]; rfl⟩
      · exact hrest next

theorem ShortStarts.exists_changedLines {patch : String} (h : ShortStarts patch) :
    ∃ lines, changedLines patch = .ok lines := by
  obtain ⟨added, hadded⟩ := exists_addedFrom h 0
  exact ⟨_, by rw [changedLines, hadded]; rfl⟩

/-- A scan goes on to the end of a text as long as the starts can be read, so a long one is met. -/
theorem addedFrom_of_long {lines : List (List Char)}
    (h : ∃ line ∈ lines, Numeral.maxDigits < ((headerStart? line).getD []).length) (next : Nat) :
    addedFrom next lines = .error .tooManyDigits := by
  induction lines generalizing next with
  | nil =>
    obtain ⟨line, hline, -⟩ := h
    cases hline
  | cons line rest ih =>
    have hrest (hfirst : ((headerStart? line).getD []).length ≤ Numeral.maxDigits) :
        ∃ line ∈ rest, Numeral.maxDigits < ((headerStart? line).getD []).length := by
      obtain ⟨other, hother, hlong⟩ := h
      rcases List.mem_cons.mp hother with rfl | hother
      · exact absurd hlong (Nat.not_lt_of_le hfirst)
      · exact ⟨other, hother, hlong⟩
    cases hstart : headerStart? line with
    | some start =>
      rw [addedFrom_of_header hstart]
      split
      · rename_i hshort
        exact ih (hrest (by rwa [hstart])) _
      · rfl
    | none =>
      have hlater := hrest (by rw [hstart]; exact Nat.zero_le _)
      rw [addedFrom_of_not_header hstart]
      split
      · rw [ih hlater]
        rfl
      · exact ih hlater next

theorem changedLines_of_not_shortStarts {patch : String} (h : ¬ ShortStarts patch) :
    changedLines patch = .error .tooManyDigits := by
  have hlong : ∃ line ∈ splitOn '\n' patch.toList,
      Numeral.maxDigits < ((headerStart? line).getD []).length := by
    rw [ShortStarts] at h
    push Not at h
    exact h
  rw [changedLines, addedFrom_of_long hlong]
  rfl

theorem changedLines_of_addedFrom {patch : String} {added : List Nat}
    (h : addedFrom 0 (splitOn '\n' patch.toList) = .ok added) :
    changedLines patch = .ok (Ascending.ofList (added.map Int.ofNat)) := by
  rw [changedLines, h]
  rfl

theorem mem_ascending_iff {added : List Nat} {n : Int} :
    n ∈ Ascending.ofList (added.map Int.ofNat) ↔ ∃ k : Nat, n = k ∧ k ∈ added := by
  simp only [Ascending.mem_ofList, List.mem_map, Int.ofNat_eq_natCast, eq_comm, and_comm]

theorem addedAt_pos {ls : List (List Char)} {n : Nat} (h : AddedAt ls n) : 1 ≤ n := by
  obtain ⟨_, _, _, _, _, _, hpos, _, _, _, _, _, _, rfl⟩ := h
  omega

theorem splitOn_joined (patch more : String) :
    splitOn '\n' (patch ++ "\n" ++ more).toList =
      splitOn '\n' patch.toList ++ splitOn '\n' more.toList := by
  have hfeed : "\n".toList = ['\n'] := by decide
  rw [String.toList_append, String.toList_append, hfeed, List.append_assoc, List.singleton_append]
  simp only [splitOn_eq, List.splitOn_append_cons_self]

theorem addedFrom_joined {patch more : String} {start : List Char} {added later : List Nat}
    (hmore : IsHeader more.toList start)
    (hadded : addedFrom 0 (splitOn '\n' patch.toList) = .ok added)
    (hlater : addedFrom 0 (splitOn '\n' more.toList) = .ok later) :
    addedFrom 0 (splitOn '\n' (patch ++ "\n" ++ more).toList) = .ok (added ++ later) := by
  obtain ⟨first, parts, hparts, hfirst⟩ := hmore.splitOn
  have hfresh : Fresh (splitOn '\n' more.toList) := by
    rw [hparts]
    exact fresh_of_header hfirst.headerStart? parts
  rw [splitOn_joined, addedFrom_append hfresh hadded, hlater]
  rfl

theorem changedLines_positions (patch : String) (hs : ShortStarts patch) :
    ∃ changed, changedLines patch = .ok changed ∧ changed.Pairwise (· < ·) ∧
      (∀ n : Int, n ∈ changed ↔ ∃ k : Nat, n = k ∧ AddedAt (splitOn '\n' patch.toList) k) ∧
      (∀ n ∈ changed, 1 ≤ n) ∧
      ((∀ line, IsIdle line → isRead line = false) ∧ ∀ other : String,
        (splitOn '\n' other.toList).filter isRead = (splitOn '\n' patch.toList).filter isRead →
          changedLines other = .ok changed) ∧
      ∀ (more : String) (start : List Char), ShortStarts more → IsHeader more.toList start →
        ∃ added all, changedLines more = .ok added ∧
          changedLines (patch ++ "\n" ++ more) = .ok all ∧ all.Pairwise (· < ·) ∧
          ∀ n, n ∈ all ↔ n ∈ changed ∨ n ∈ added := by
  obtain ⟨added, hadded⟩ := exists_addedFrom hs 0
  have hpositions : ∀ n, n ∈ added ↔ AddedAt (splitOn '\n' patch.toList) n := by
    intro n
    rw [mem_addedFrom_iff hadded, InHunk]
    simp
  refine ⟨_, changedLines_of_addedFrom hadded, Ascending.pairwise_ofList _, ?_, ?_,
    ⟨fun _ hidle => hidle.isRead, ?_⟩, ?_⟩
  · intro n
    simp only [mem_ascending_iff, hpositions]
  · intro n hn
    obtain ⟨k, rfl, hk⟩ := mem_ascending_iff.mp hn
    have hpos := addedAt_pos ((hpositions k).mp hk)
    omega
  · intro other hread
    apply changedLines_of_addedFrom
    rw [← addedFrom_filter, hread, addedFrom_filter, hadded]
  · intro more start hmore hheader
    obtain ⟨later, hlater⟩ := exists_addedFrom hmore 0
    refine ⟨_, _, changedLines_of_addedFrom hlater,
      changedLines_of_addedFrom (addedFrom_joined hheader hadded hlater),
      Ascending.pairwise_ofList _, ?_⟩
    intro n
    simp only [mem_ascending_iff, List.mem_append, and_or_left, exists_or]

def damagedPatch : String :=
  "+lost\n@@ -1,2 +3,2 @@ f\n a\n\n-b\n+c\n@@ -1 +7\n+++ d\n\\ No newline\n+e\n@@ -1 +0,0 @@\n+f"

def tidiedPatch : String :=
  "+lost\n@@ -1,2 +3,2 @@ f\n a\n+c\n+e\n@@ -1 +0,0 @@\n+f"

theorem changedLines_positions_damaged :
    ShortStarts damagedPatch ∧ changedLines damagedPatch = .ok [4, 5] ∧
      AddedAt (splitOn '\n' damagedPatch.toList) 5 ∧
      changedLines tidiedPatch = .ok [4, 5] ∧
      ∃ all, changedLines (damagedPatch ++ "\n" ++ "@@ -9 +4,2 @@\n+x\n y\n+z") = .ok all ∧
        ∀ n, n ∈ all ↔ n ∈ [4, 5] ∨ n ∈ [4, 6] := by
  have hshort : ShortStarts damagedPatch := by
    rw [ShortStarts]
    decide +kernel
  have hread : changedLines damagedPatch = .ok [4, 5] := by decide +kernel
  have hmore : ShortStarts "@@ -9 +4,2 @@\n+x\n y\n+z" := by
    rw [ShortStarts]
    decide +kernel
  have hheader : IsHeader "@@ -9 +4,2 @@\n+x\n y\n+z".toList ['4'] :=
    headerStart?_eq_some_iff.mp (by decide +kernel)
  have hlater : changedLines "@@ -9 +4,2 @@\n+x\n y\n+z" = .ok [4, 6] := by decide +kernel
  obtain ⟨changed, hchanged, -, hposition, -, ⟨-, hsame⟩, hjoined⟩ :=
    changedLines_positions damagedPatch hshort
  obtain rfl := Except.ok.inj (hchanged.symm.trans hread)
  obtain ⟨added, all, hadded, hall, -, hunion⟩ := hjoined _ _ hmore hheader
  obtain rfl := Except.ok.inj (hadded.symm.trans hlater)
  obtain ⟨k, hk, hat⟩ := (hposition 5).mp (by decide)
  obtain rfl : 5 = k := Int.ofNat.inj hk
  exact ⟨hshort, hread, hat, hsame _ (by decide +kernel), all, hall, hunion⟩

end DiffReach.Patch
