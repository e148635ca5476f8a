import DiffReach.Proofs.Source.Call
import Mathlib.Data.List.TakeWhile

namespace DiffReach.Source

open Text

def wordBefore (before : List Char) : List Char :=
  ((before.reverse.dropWhile isBlank).takeWhile isWord).reverse

/-- The name that a parenthesis calls, by the text before it; empty if it calls none. -/
def nameBefore (before : List Char) : List Char :=
  (wordBefore before).dropWhile fun c => !isNameStart c

variable {lead name gap before : List Char}

theorem wordBefore_append (hgap : ∀ c ∈ gap, isBlank c = true) (hn : IsName name) :
    wordBefore (lead ++ name ++ gap) = (lead.reverse.takeWhile isWord).reverse ++ name := by
  have hgap' : ∀ c ∈ gap.reverse, isBlank c = true := fun c hc => hgap c (List.mem_reverse.mp hc)
  have hword : ∀ c ∈ name.reverse, isWord c = true := fun c hc =>
    hn.isWord c (List.mem_reverse.mp hc)
  obtain ⟨d, ds, hname⟩ := List.exists_cons_of_ne_nil (mt List.reverse_eq_nil_iff.mp hn.ne_nil)
  -- the last character of the name is no blank, so that the blanks end there
  have hd : ¬ isBlank d = true := fun hblank => by
    have hno := isWord_of_isBlank hblank
    rw [hword d (by simp [hname])] at hno
    cases hno
  have hdrop : (name.reverse ++ lead.reverse).dropWhile isBlank = name.reverse ++ lead.reverse := by
    rw [hname, List.cons_append, List.dropWhile_cons_of_neg hd]
  rw [wordBefore, List.reverse_append, List.reverse_append, List.dropWhile_append_of_pos hgap',
    hdrop, List.takeWhile_append_of_pos hword, List.reverse_append, List.reverse_reverse]

theorem nameBefore_append (hlead : Unbegun lead) (hn : IsName name)
    (hgap : ∀ c ∈ gap, isBlank c = true) : nameBefore (lead ++ name ++ gap) = name := by
  have hidle : ∀ c ∈ (lead.reverse.takeWhile isWord).reverse, (!isNameStart c) = true := by
    intro c hc
    simp [hlead c (List.mem_reverse.mp hc)]
  rw [nameBefore, wordBefore_append hgap hn, List.dropWhile_append_of_pos hidle]
  obtain ⟨c, cs, rfl, hc, _⟩ := hn
  rw [List.dropWhile_cons_of_neg (by simp [hc])]

theorem exists_lead_of_wordBefore (before : List Char) :
    ∃ lead gap, before = lead ++ wordBefore before ++ gap ∧ lead.reverse.takeWhile isWord = [] ∧
      ∀ c ∈ gap, isBlank c = true := by
  let trimmed := before.reverse.dropWhile isBlank
  refine ⟨(trimmed.dropWhile isWord).reverse, (before.reverse.takeWhile isBlank).reverse,
    ?_, ?_, ?_⟩
  · have hwhole : before.reverse = before.reverse.takeWhile isBlank ++
        (trimmed.takeWhile isWord ++ trimmed.dropWhile isWord) := by
      rw [List.takeWhile_append_dropWhile, List.takeWhile_append_dropWhile]
    rw [wordBefore, ← List.reverse_append, ← List.reverse_append, ← hwhole, List.reverse_reverse]
  · rw [List.reverse_reverse, List.takeWhile_eq_nil_iff]
    intro hpos
    exact List.dropWhile_get_zero_not isWord trimmed hpos
  · intro c hc
    exact List.mem_takeWhile_imp (List.mem_reverse.mp hc)

theorem isWord_of_mem_wordBefore {c : Char} (h : c ∈ wordBefore before) : isWord c = true :=
  List.mem_takeWhile_imp (List.mem_reverse.mp h)

theorem exists_of_nameBefore (h : nameBefore before ≠ []) :
    ∃ lead gap, before = lead ++ nameBefore before ++ gap ∧ Unbegun lead ∧
      IsName (nameBefore before) ∧ ∀ c ∈ gap, isBlank c = true := by
  obtain ⟨lead, gap, hbefore, hlead, hgap⟩ := exists_lead_of_wordBefore before
  let idle := (wordBefore before).takeWhile fun c => !isNameStart c
  have hword : idle ++ nameBefore before = wordBefore before := List.takeWhile_append_dropWhile
  refine ⟨lead ++ idle, gap, ?_, ?_, ?_, hgap⟩
  · rw [List.append_assoc lead, hword, ← hbefore]
  · -- the word at the end of the lead is what was passed over
    intro c hc
    have hidle : ∀ d ∈ idle.reverse, isWord d = true := fun d hd =>
      isWord_of_mem_wordBefore (hword ▸ List.mem_append_left _ (List.mem_reverse.mp hd))
    rw [List.reverse_append, List.takeWhile_append_of_pos hidle, hlead, List.append_nil] at hc
    simpa using List.mem_takeWhile_imp (List.mem_reverse.mp hc)
  · obtain ⟨c, cs, hname⟩ := List.exists_cons_of_ne_nil h
    refine ⟨c, cs, hname, ?_, fun d hd => ?_⟩
    · have hhead := List.head?_dropWhile_not (fun c => !isNameStart c) (wordBefore before)
      rw [← nameBefore, hname] at hhead
      simpa using hhead
    · exact isWord_of_mem_wordBefore (hword ▸ List.mem_append_right _ (by simp [hname, hd]))

theorem callsIn_iff {text : List Char} : CallsIn text name ↔
    ∃ before rest, text = before ++ '(' :: rest ∧ nameBefore before = name ∧ name ≠ [] := by
  constructor
  · rintro ⟨lead, gap, rest, rfl, hlead, hn, hgap⟩
    exact ⟨lead ++ name ++ gap, rest, rfl, nameBefore_append hlead hn hgap, hn.ne_nil⟩
  · rintro ⟨before, rest, rfl, rfl, hne⟩
    obtain ⟨lead, gap, hbefore, hlead, hn, hgap⟩ := exists_of_nameBefore hne
    exact ⟨lead, gap, rest, by rw [← hbefore], hlead, hn, hgap⟩

theorem CallsIn.append {text : List Char} (h : CallsIn text name) (more : List Char) :
    CallsIn (text ++ more) name := by
  obtain ⟨lead, gap, rest, rfl, hlead, hn, hgap⟩ := h
  exact ⟨lead, gap, rest ++ more, by simp, hlead, hn, hgap⟩

theorem Unbegun.after_line (h : Unbegun lead) (earlier : List Char) :
    Unbegun (earlier ++ '\n' :: lead) := by
  intro c hc
  have hsplit : (earlier ++ '\n' :: lead).reverse =
      lead.reverse ++ '\n' :: earlier.reverse := by simp
  rw [hsplit, List.takeWhile_append] at hc
  split at hc
  · rename_i hall
    rw [List.takeWhile_cons_of_neg (by decide), List.append_nil] at hc
    refine h c ?_
    rwa [List.IsPrefix.eq_of_length (List.takeWhile_prefix isWord) hall]
  · exact h c hc

theorem CallsIn.after_line {text : List Char} (h : CallsIn text name) (earlier : List Char) :
    CallsIn (earlier ++ '\n' :: text) name := by
  obtain ⟨lead, gap, rest, rfl, hlead, hn, hgap⟩ := h
  exact ⟨earlier ++ '\n' :: lead, gap, rest, by simp, hlead.after_line earlier, hn, hgap⟩

theorem toList_unlines_append {ls ms : List String} (hls : ls ≠ []) (hms : ms ≠ []) :
    (unlines (ls ++ ms)).toList = (unlines ls).toList ++ '\n' :: (unlines ms).toList := by
  induction ls with
  | nil => exact absurd rfl hls
  | cons line ls ih =>
    by_cases hrest : ls = []
    · subst hrest
      simp [unlines, String.intercalate_cons_of_ne_nil hms]
    · have hjoined : ls ++ ms ≠ [] := List.append_ne_nil_of_left_ne_nil hrest ms
      have htail := ih hrest
      rw [unlines, unlines] at htail
      simp [unlines, String.intercalate_cons_of_ne_nil hrest,
        String.intercalate_cons_of_ne_nil hjoined, htail]

theorem calls_nil (stoplist : List String) : calls stoplist [] = [] :=
  rfl

theorem calls_append_subset (stoplist body more : List String) :
    calls stoplist body ++ calls stoplist more ⊆ calls stoplist (body ++ more) := by
  -- without lines there is no line feed between the bodies, and nothing is called either
  by_cases hbody : body = []
  · simp [hbody, calls_nil]
  by_cases hmore : more = []
  · simp [hmore, calls_nil]
  refine List.append_subset.mpr ⟨fun name h => ?_, fun name h => ?_⟩
  · obtain ⟨hcall, hstop⟩ := mem_calls_iff.mp h
    refine mem_calls_iff.mpr ⟨?_, hstop⟩
    rw [toList_unlines_append hbody hmore]
    exact hcall.append _
  · obtain ⟨hcall, hstop⟩ := mem_calls_iff.mp h
    refine mem_calls_iff.mpr ⟨?_, hstop⟩
    rw [toList_unlines_append hbody hmore]
    exact hcall.after_line _

theorem calls_exact (stoplist body : List String) :
    (∀ name : String, name ∈ calls stoplist body ↔ name ∉ stoplist ∧ ∃ before rest,
      (unlines body).toList = before ++ '(' :: rest ∧ nameBefore before = name.toList ∧
        name ≠ "") ∧
    (calls stoplist body).Pairwise (· < ·) ∧
    ∀ more, calls stoplist body ++ calls stoplist more ⊆ calls stoplist (body ++ more) := by
  refine ⟨fun name => ?_, Ascending.pairwise_ofList _, calls_append_subset stoplist body⟩
  have hempty : name.toList ≠ [] ↔ name ≠ "" := by simp
  rw [mem_calls_iff, callsIn_iff, hempty, and_comm]

example : calls ["if"] ["if (3épart", " (1) + (4)(x_2\t(0)))"] = ["part", "x_2"] := by
  decide +kernel

end DiffReach.Source
