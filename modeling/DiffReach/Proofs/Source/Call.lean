import DiffReach.Source.Call
import DiffReach.Proofs.Ascending
import DiffReach.Proofs.Text.Character
import Mathlib.Data.List.Induction

namespace DiffReach.Text

theorem isWord_of_isBlank {c : Char} (h : isBlank c = true) : isWord c = false := by
  have hclosed : ∀ n ∈ blankRanges.flatMap fun r => List.range' r.1 (r.2 - r.1 + 1),
      isWord (Char.ofNat n) = false := by decide +kernel
  obtain ⟨r, hr, hlo, hhi⟩ := Ranges.exists_of_holds h
  have hmem : c.toNat ∈ List.range' r.1 (r.2 - r.1 + 1) := by
    rw [List.mem_range'_1]
    omega
  rw [← Char.ofNat_toNat c]
  exact hclosed _ (List.mem_flatMap.mpr ⟨r, hr, hmem⟩)

theorem isWord_of_isNameStart {c : Char} (h : isNameStart c = true) : isWord c = true := by
  rw [isNameStart, Bool.or_eq_true] at h
  have hsmall : c.toNat < 0x80 := by
    rcases h with h | h
    · have hrange : (65 ≤ c.val ∧ c.val ≤ 90) ∨ (97 ≤ c.val ∧ c.val ≤ 122) := by
        change (decide (65 ≤ c.val ∧ c.val ≤ 90) ||
          decide (97 ≤ c.val) && decide (c.val ≤ 122)) = true at h
        simpa using h
      change c.val.toNat < 0x80
      rcases hrange with ⟨_, hle⟩ | ⟨_, hle⟩
      · exact Nat.lt_of_le_of_lt (UInt32.le_iff_toNat_le.mp hle) (by decide)
      · exact Nat.lt_of_le_of_lt (UInt32.le_iff_toNat_le.mp hle) (by decide)
    · obtain rfl := eq_of_beq h
      decide
  rw [isWord, if_pos hsmall, Char.isAlphanum]
  rcases h with h | h <;> simp [h]

end DiffReach.Text

namespace DiffReach.Source

open Text

def IsName (name : List Char) : Prop :=
  ∃ c cs, name = c :: cs ∧ isNameStart c = true ∧ ∀ d ∈ cs, isWord d = true

/-- No name has begun in the word at the end of a text. -/
def Unbegun (text : List Char) : Prop :=
  ∀ c ∈ text.reverse.takeWhile isWord, isNameStart c = false

def CallsIn (text name : List Char) : Prop :=
  ∃ lead gap rest, text = lead ++ name ++ gap ++ '(' :: rest ∧ Unbegun lead ∧ IsName name ∧
    ∀ c ∈ gap, isBlank c = true

theorem IsName.ne_nil {name : List Char} (h : IsName name) : name ≠ [] := by
  obtain ⟨c, cs, rfl, _⟩ := h
  exact List.cons_ne_nil c cs

theorem IsName.isWord {name : List Char} (h : IsName name) : ∀ c ∈ name, isWord c = true := by
  obtain ⟨c, cs, rfl, hc, hcs⟩ := h
  intro d hd
  rcases List.mem_cons.mp hd with rfl | hd
  · exact isWord_of_isNameStart hc
  · exact hcs d hd

theorem IsName.snoc {name : List Char} (h : IsName name) {c : Char} (hc : Text.isWord c = true) :
    IsName (name ++ [c]) := by
  obtain ⟨d, ds, rfl, hd, hds⟩ := h
  refine ⟨d, ds ++ [c], rfl, hd, ?_⟩
  intro e he
  rcases List.mem_append.mp he with he | he
  · exact hds e he
  · rwa [List.mem_singleton.mp he]

theorem unbegun_snoc {text : List Char} {c : Char} (hc : isWord c = false) :
    Unbegun (text ++ [c]) := by
  simp [Unbegun, hc]

theorem Unbegun.snoc {text : List Char} (h : Unbegun text) {c : Char}
    (hc : isNameStart c = false) : Unbegun (text ++ [c]) := by
  intro d hd
  rw [List.reverse_append, List.reverse_singleton, List.singleton_append] at hd
  cases hw : isWord c with
  | false => simp [hw] at hd
  | true =>
    rw [List.takeWhile_cons_of_pos hw] at hd
    rcases List.mem_cons.mp hd with rfl | hd
    · exact hc
    · exact h d hd

theorem not_unbegun_name {lead name : List Char} (h : IsName name) : ¬ Unbegun (lead ++ name) := by
  obtain ⟨c, cs, rfl, hc, hcs⟩ := id h
  intro hu
  have hword : ∀ d ∈ (c :: cs).reverse, isWord d = true := fun d hd =>
    h.isWord d (List.mem_reverse.mp hd)
  have hstart := hu c (by
    rw [List.reverse_append, List.takeWhile_append_of_pos hword]
    simp)
  exact absurd hc (by simp [hstart])

namespace Pending

variable {p : Pending} {before : List Char} {c : Char}

structure Follows (p : Pending) (before : List Char) : Prop where
  unbegun : p.gapped = true ∨ p.name = [] → Unbegun before
  stands : p.name ≠ [] → ∃ lead gap, before = lead ++ p.name.reverse ++ gap ∧ Unbegun lead ∧
    IsName p.name.reverse ∧ (∀ c ∈ gap, isBlank c = true) ∧ (p.gapped = false → gap = [])

theorem follows_empty : empty.Follows [] where
  unbegun _ := by simp [Unbegun]
  stands h := absurd rfl h

theorem follows_start (h : Unbegun before) (hc : isNameStart c = true) :
    Follows ⟨[c], false⟩ (before ++ [c]) where
  unbegun hp := by simp at hp
  stands _ := ⟨before, [], by simp, h, ⟨c, [], rfl, hc, by simp⟩, by simp, fun _ => rfl⟩

theorem Follows.word (h : p.Follows before) (hw : isWord c = true) :
    (p.word c).Follows (before ++ [c]) := by
  rw [Pending.word]
  split
  · rename_i hreading
    have hgapped : p.gapped = false := by simp_all
    have hname : p.name ≠ [] := by simp_all
    obtain ⟨lead, gap, rfl, hlead, hn, _, hgap⟩ := h.stands hname
    obtain rfl := hgap hgapped
    refine ⟨by simp, fun _ => ⟨lead, [], by simp, hlead, ?_, by simp, fun _ => rfl⟩⟩
    rw [List.reverse_cons]
    exact hn.snoc hw
  · rename_i hidle
    have hbefore : Unbegun before := h.unbegun (by
      cases hg : p.gapped <;> simp_all)
    split
    · exact follows_start hbefore ‹_›
    · rename_i hstart
      exact ⟨fun _ => hbefore.snoc (by simpa using hstart), fun hne => absurd rfl hne⟩

theorem Follows.next (h : p.Follows before) (c : Char) : (p.next c).Follows (before ++ [c]) := by
  cases hw : isWord c with
  | true =>
    rw [Pending.next, if_pos hw]
    exact h.word hw
  | false =>
    rw [Pending.next, if_neg (by simp [hw])]
    split
    · rename_i hblank
      refine ⟨fun _ => unbegun_snoc hw, fun hname => ?_⟩
      obtain ⟨lead, gap, rfl, hlead, hn, hgap, _⟩ := h.stands hname
      refine ⟨lead, gap ++ [c], by simp, hlead, hn, ?_, by simp⟩
      intro d hd
      rcases List.mem_append.mp hd with hd | hd
      · exact hgap d hd
      · rwa [List.mem_singleton.mp hd]
    · exact ⟨fun _ => unbegun_snoc hw, fun hname => absurd rfl hname⟩

theorem follows_foldl (before : List Char) : (before.foldl next empty).Follows before := by
  induction before using List.reverseRecOn with
  | nil => exact follows_empty
  | append_singleton before c ih =>
    rw [List.foldl_append]
    exact ih.next c

theorem foldl_next_words {cs : List Char} (hcs : ∀ c ∈ cs, isWord c = true) {name : List Char}
    (hname : name ≠ []) : cs.foldl next ⟨name, false⟩ = ⟨cs.reverse ++ name, false⟩ := by
  induction cs generalizing name with
  | nil => rfl
  | cons c cs ih =>
    have hnext : next ⟨name, false⟩ c = ⟨c :: name, false⟩ := by
      rw [next, if_pos (hcs c (by simp)), word, if_pos (by simp [hname])]
    rw [List.foldl_cons, hnext, ih (fun d hd => hcs d (by simp [hd])) (List.cons_ne_nil c name)]
    simp

theorem foldl_next_name {name : List Char} (hn : IsName name)
    (hidle : p.gapped = true ∨ p.name = []) : name.foldl next p = ⟨name.reverse, false⟩ := by
  obtain ⟨c, cs, rfl, hc, hcs⟩ := hn
  have hnext : p.next c = ⟨[c], false⟩ := by
    rw [next, if_pos (isWord_of_isNameStart hc), word, if_neg ?_, if_pos hc]
    rcases hidle with h | h <;> simp [h]
  rw [List.foldl_cons, hnext, foldl_next_words hcs (List.cons_ne_nil c [])]
  simp

theorem name_foldl_next_blanks {gap : List Char} (hgap : ∀ c ∈ gap, isBlank c = true)
    (p : Pending) : (gap.foldl next p).name = p.name := by
  induction gap generalizing p with
  | nil => rfl
  | cons c gap ih =>
    have hblank := hgap c (by simp)
    rw [List.foldl_cons, ih (fun d hd => hgap d (by simp [hd])), next,
      if_neg (by simp [isWord_of_isBlank hblank]), if_pos hblank]

end Pending

theorem mem_calledFrom_iff {p : Pending} {text name : List Char} :
    name ∈ calledFrom p text ↔ ∃ before rest, text = before ++ '(' :: rest ∧
      (before.foldl Pending.next p).name ≠ [] ∧
      name = (before.foldl Pending.next p).name.reverse := by
  induction text generalizing p with
  | nil => simp [calledFrom]
  | cons c text ih =>
    -- the opening parenthesis ends a pending name, so each step of the scan is `next`
    have hparen : p.next '(' = .empty := by
      rw [Pending.next, if_neg (by decide), if_neg (by decide)]
    have hstep : name ∈ calledFrom p (c :: text) ↔
        (c = '(' ∧ p.name ≠ [] ∧ name = p.name.reverse) ∨ name ∈ calledFrom (p.next c) text := by
      rw [calledFrom]
      split
      · rename_i hcall
        obtain ⟨rfl, hname⟩ : c = '(' ∧ p.name ≠ [] := by simpa using hcall
        simp [hparen, hname]
      · rename_i hcall
        simp_all
    rw [hstep, ih]
    constructor
    · rintro (⟨rfl, hname, rfl⟩ | ⟨before, rest, rfl, hname, rfl⟩)
      · exact ⟨[], text, rfl, hname, rfl⟩
      · exact ⟨c :: before, rest, rfl, hname, rfl⟩
    · rintro ⟨before, rest, heq, hname, rfl⟩
      cases before with
      | nil =>
        obtain ⟨rfl, rfl⟩ := List.cons.inj heq
        exact Or.inl ⟨rfl, hname, rfl⟩
      | cons d before =>
        obtain ⟨rfl, rfl⟩ := List.cons.inj heq
        exact Or.inr ⟨before, rest, rfl, hname, rfl⟩

theorem mem_calledFrom_empty_iff {text name : List Char} :
    name ∈ calledFrom .empty text ↔ CallsIn text name := by
  rw [mem_calledFrom_iff]
  constructor
  · rintro ⟨before, rest, rfl, hname, rfl⟩
    obtain ⟨lead, gap, heq, hlead, hn, hgap, _⟩ := (Pending.follows_foldl before).stands hname
    exact ⟨lead, gap, rest, by rw [← heq], hlead, hn, hgap⟩
  · rintro ⟨lead, gap, rest, rfl, hlead, hn, hgap⟩
    -- a name that is being read would have begun in the word before
    have hidle : (lead.foldl Pending.next .empty).gapped = true ∨
        (lead.foldl Pending.next .empty).name = [] := by
      by_contra hreading
      obtain ⟨hgapped, hname⟩ := not_or.mp hreading
      obtain ⟨start, blanks, heq, _, hstart, _, hblanks⟩ :=
        (Pending.follows_foldl lead).stands hname
      rw [hblanks (by simpa using hgapped), List.append_nil] at heq
      exact not_unbegun_name hstart (heq ▸ hlead)
    have hfold : ((lead ++ name ++ gap).foldl Pending.next .empty).name = name.reverse := by
      rw [List.foldl_append, List.foldl_append, Pending.foldl_next_name hn hidle,
        Pending.name_foldl_next_blanks hgap]
    refine ⟨lead ++ name ++ gap, rest, rfl, ?_, ?_⟩
    · rw [hfold]
      exact fun hnil => hn.ne_nil (List.reverse_eq_nil_iff.mp hnil)
    · rw [hfold, List.reverse_reverse]

theorem mem_calls_iff {stoplist body : List String} {name : String} :
    name ∈ calls stoplist body ↔ CallsIn (unlines body).toList name.toList ∧ name ∉ stoplist := by
  rw [calls, Ascending.mem_ofList, List.mem_filter, ← mem_calledFrom_empty_iff, List.mem_map]
  constructor
  · rintro ⟨⟨cs, hcs, rfl⟩, hstop⟩
    exact ⟨by simpa using hcs, by simpa using hstop⟩
  · rintro ⟨hcs, hstop⟩
    exact ⟨⟨name.toList, hcs, by simp⟩, by simpa using hstop⟩

end DiffReach.Source
