import DiffReach.Text.Character
import DiffReach.Proofs.Basic
import Mathlib.Data.List.DropRight

namespace DiffReach.Text

theorem exists_of_digitFrom {starts : List Nat} {n d : Nat} (h : digitFrom starts n = some d) :
    ∃ start ∈ starts, n = start + d ∧ d < 10 := by
  induction starts with
  | nil => cases h
  | cons start starts ih =>
    rw [digitFrom] at h
    split at h
    · cases h
    · rename_i hstart
      split at h
      · rename_i hnear
        obtain rfl := Option.some.inj h
        exact ⟨start, List.mem_cons_self, by omega, by omega⟩
      · obtain ⟨other, hmem, hother⟩ := ih h
        exact ⟨other, List.mem_cons_of_mem start hmem, hother⟩

theorem lt_ten_of_digitValue? {c : Char} {d : Nat} (h : digitValue? c = some d) : d < 10 := by
  obtain ⟨start, -, -, hd⟩ := exists_of_digitFrom h
  exact hd

theorem ne_of_digitValue? {c mark : Char} {d : Nat} (h : digitValue? c = some d)
    (hmark : digitValue? mark = none) : c ≠ mark := by
  rintro rfl
  rw [hmark] at h
  cases h

theorem Ranges.exists_of_holds {ranges : Ranges} {n : Nat} (h : ranges.holds n = true) :
    ∃ range ∈ ranges, range.1 ≤ n ∧ n ≤ range.2 := by
  induction ranges with
  | nil => cases h
  | cons range rest ih =>
    rw [Ranges.holds, Bool.and_eq_true, Bool.or_eq_true, decide_eq_true_iff,
      decide_eq_true_iff] at h
    obtain ⟨hlow, hhigh | hrest⟩ := h
    · exact ⟨range, List.mem_cons_self, hlow, hhigh⟩
    · obtain ⟨other, hmem, hother⟩ := ih hrest
      exact ⟨other, List.mem_cons_of_mem range hmem, hother⟩

theorem isMargin_eq_false {c : Char}
    (h : ∀ range ∈ blankRanges, c.toNat < range.1 ∨ range.2 < c.toNat) : isMargin c = false := by
  rw [isMargin, Bool.and_eq_false_iff]
  left
  rw [← Bool.not_eq_true]
  intro hblank
  obtain ⟨range, hrange, hlow, hhigh⟩ := Ranges.exists_of_holds hblank
  have := h range hrange
  omega

theorem isMargin_eq_false_of_digitValue? {c : Char} {d : Nat} (h : digitValue? c = some d) :
    isMargin c = false := by
  have hapart : ∀ start ∈ digitZeros, ∀ range ∈ blankRanges,
      start + 10 ≤ range.1 ∨ range.2 < start := by decide
  obtain ⟨start, hstart, heq, hd⟩ := exists_of_digitFrom h
  refine isMargin_eq_false fun range hrange => ?_
  have := hapart start hstart range hrange
  omega

theorem toNat_toLower (c : Char) : c.toLower.toNat =
    if 65 ≤ c.toNat ∧ c.toNat ≤ 90 then c.toNat + 32 else c.toNat := by
  delta Char.toLower
  split
  · rename_i h
    have hlow : 65 ≤ c.val.toNat := UInt32.le_iff_toNat_le.mp h.1
    have hhigh : c.val.toNat ≤ 90 := UInt32.le_iff_toNat_le.mp h.2
    rw [if_pos ⟨hlow, hhigh⟩]
    change (c.val + 32).toNat = c.val.toNat + 32
    rw [UInt32.toNat_add]
    exact Nat.mod_eq_of_lt (by change c.val.toNat + 32 < 2 ^ 32; omega)
  · rename_i h
    rw [if_neg fun hn => h ⟨UInt32.le_iff_toNat_le.mpr hn.1, UInt32.le_iff_toNat_le.mpr hn.2⟩]

theorem eq_or_add_eq_of_toLower {c l : Char} (h : c.toLower = l) :
    c = l ∨ 65 ≤ c.toNat ∧ c.toNat + 32 = l.toNat := by
  rw [← Char.toNat_inj, toNat_toLower] at h
  rw [← Char.toNat_inj]
  split_ifs at h <;> omega

section Trimming

variable {p : Char → Bool} {left right body : List Char}

theorem dropBoth_append (hleft : ∀ c ∈ left, p c = true) (hright : ∀ c ∈ right, p c = true)
    (hbody : ∀ c ∈ body, p c = false) : dropBoth p (left ++ (body ++ right)) = body := by
  rw [dropBoth, List.dropWhile_append_of_pos hleft]
  by_cases hne : body = []
  · subst hne
    have hnil : right.dropWhile p = [] := List.dropWhile_eq_nil_iff.mpr hright
    rw [List.nil_append, hnil]
    rfl
  · have hhead : ∀ c ∈ (body ++ right).head?, p c = false := by
      intro c hc
      rcases mem_head?_append hc with hc | ⟨hnil, -⟩
      · exact hbody c (List.mem_of_mem_head? hc)
      · exact absurd hnil hne
    have hlast : ∀ c ∈ body.reverse.head?, p c = false := fun c hc =>
      hbody c (List.mem_reverse.mp (List.mem_of_mem_head? hc))
    rw [dropWhile_eq_self hhead, List.reverse_append,
      List.dropWhile_append_of_pos fun c hc => hright c (List.mem_reverse.mp hc),
      dropWhile_eq_self hlast, List.reverse_reverse]

theorem exists_dropBoth (p : Char → Bool) (cs : List Char) : ∃ left right,
    cs = left ++ (dropBoth p cs ++ right) ∧ (∀ c ∈ left, p c = true) ∧ ∀ c ∈ right, p c = true := by
  refine ⟨cs.takeWhile p, ((cs.dropWhile p).reverse.takeWhile p).reverse, ?_, ?_, ?_⟩
  · rw [dropBoth, ← List.reverse_append, List.takeWhile_append_dropWhile, List.reverse_reverse,
      List.takeWhile_append_dropWhile]
  · exact fun c hc => List.mem_takeWhile_imp hc
  · exact fun c hc => List.mem_takeWhile_imp (List.mem_reverse.mp hc)

theorem dropBoth_eq_rdropWhile (p : Char → Bool) (cs : List Char) :
    dropBoth p cs = (cs.dropWhile p).rdropWhile p :=
  rfl

theorem dropBoth_sublist (p : Char → Bool) (cs : List Char) : (dropBoth p cs).Sublist cs :=
  (List.rdropWhile_prefix p (cs.dropWhile p)).sublist.trans (List.dropWhile_sublist p)

theorem head?_dropBoth (p : Char → Bool) (cs : List Char) :
    (dropBoth p cs).head? = (cs.dropWhile p).head? := by
  rw [dropBoth_eq_rdropWhile]
  cases h : cs.dropWhile p with
  | nil => rfl
  | cons c rest =>
    -- The first character that is kept from the left stops the trimming from the right.
    have hc : ¬ p c = true := by simpa [h] using List.head?_dropWhile_not p cs
    cases hkept : (c :: rest).rdropWhile p with
    | nil => exact absurd (List.rdropWhile_eq_nil_iff.mp hkept c List.mem_cons_self) hc
    | cons d more =>
      have hfront := List.rdropWhile_prefix p (c :: rest)
      rw [hkept, List.cons_prefix_cons] at hfront
      rw [hfront.1]
      rfl

theorem not_of_mem_head?_dropBoth {c : Char} (h : c ∈ (dropBoth p body).head?) : p c = false := by
  rw [head?_dropBoth] at h
  simpa [Option.mem_def.mp h] using List.head?_dropWhile_not p body

theorem not_of_mem_getLast?_dropBoth {c : Char} (h : c ∈ (dropBoth p body).getLast?) :
    p c = false := by
  rw [dropBoth, List.getLast?_reverse] at h
  simpa [Option.mem_def.mp h] using List.head?_dropWhile_not p (body.dropWhile p).reverse

theorem dropBoth_eq_self (hhead : ∀ c ∈ body.head?, p c = false)
    (hlast : ∀ c ∈ body.getLast?, p c = false) : dropBoth p body = body := by
  rw [dropBoth, dropWhile_eq_self hhead, dropWhile_eq_self, List.reverse_reverse]
  rwa [List.head?_reverse]

end Trimming

end DiffReach.Text
