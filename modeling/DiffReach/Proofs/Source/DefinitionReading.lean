import DiffReach.Proofs.Source.Decoration

namespace DiffReach

namespace Source

open Text

@[ext]
structure DefinitionReading where
  margin : List Char
  opening : List Char
  gap : List Char
  name : List Char
  slot : List Char
  rest : List Char
  margin_blank : ∀ c ∈ margin, isBlank c = true
  isOpening : IsOpening opening
  isGap : IsGap gap
  isName : IsName name
  slot_blank : ∀ c ∈ slot, isBlank c = true

section Parts

variable {opening gap name slot : List Char}

theorem IsOpening.not_isBlank_head? (h : IsOpening opening) (cs : List Char) :
    ∀ c ∈ (opening ++ ("def".toList ++ cs)).head?, isBlank c = false := by
  obtain ⟨c, rest, heq, hc, -⟩ := h.exists_cons cs
  rw [heq]
  simpa using hc

theorem IsName.not_isBlank_head? (h : IsName name) (cs : List Char) :
    ∀ c ∈ (name ++ cs).head?, isBlank c = false := by
  obtain ⟨c, tail, rfl, hc, -⟩ := h
  simp only [List.cons_append, List.head?_cons, Option.mem_def, Option.some.injEq, forall_eq']
  rw [← Bool.not_eq_true]
  intro hblank
  have hword := isWord_of_isNameStart hc
  rw [isWord_of_isBlank hblank] at hword
  cases hword

theorem not_isWord_head?_slot (hslot : ∀ c ∈ slot, isBlank c = true) (rest : List Char) :
    ∀ c ∈ (slot ++ '(' :: rest).head?, isWord c = false := by
  cases slot with
  | nil => exact fun c hc => Option.some.inj hc ▸ by decide
  | cons d slot =>
    intro c hc
    obtain rfl := Option.some.inj hc
    exact isWord_of_isBlank (hslot d List.mem_cons_self)

theorem not_isBlank_head?_paren (rest : List Char) :
    ∀ c ∈ ('(' :: rest).head?, isBlank c = false :=
  fun c hc => Option.some.inj hc ▸ by decide

theorem afterBlanks?_append (h : IsGap gap) {cs : List Char}
    (hcs : ∀ c ∈ cs.head?, isBlank c = false) : afterBlanks? (gap ++ cs) = some cs := by
  obtain ⟨hne, hblank⟩ := h
  cases gap with
  | nil => exact absurd rfl hne
  | cons c gap =>
    rw [List.cons_append, afterBlanks?, if_pos (hblank c List.mem_cons_self),
      dropWhile_eq_rest (fun d hd => hblank d (List.mem_cons_of_mem c hd)) hcs]

theorem skipAsync_append (h : IsOpening opening) (cs : List Char) :
    skipAsync (opening ++ ("def".toList ++ cs)) = "def".toList ++ cs := by
  cases h with
  | plain => rfl
  | async gap hgap =>
    have hdef : ∀ c ∈ ("def".toList ++ cs).head?, isBlank c = false :=
      IsOpening.plain.not_isBlank_head? cs
    have hasync : "async".toList.isPrefixOf? ("async".toList ++ (gap ++ ("def".toList ++ cs))) =
        some (gap ++ ("def".toList ++ cs)) :=
      List.isPrefixOf?_eq_some_iff_append_eq.mpr rfl
    rw [List.append_assoc, skipAsync, hasync]
    dsimp only
    rw [afterBlanks?_append hgap hdef, Option.getD_some]

theorem calledName?_append (h : IsName name) (hslot : ∀ c ∈ slot, isBlank c = true)
    (rest : List Char) : calledName? (name ++ (slot ++ '(' :: rest)) = some name := by
  obtain ⟨c, tail, rfl, hc, htail⟩ := h
  have hword := not_isWord_head?_slot hslot rest
  simp only [List.cons_append, calledName?, if_pos hc, takeWhile_eq_front htail hword,
    dropWhile_eq_rest htail hword, dropWhile_eq_rest hslot (not_isBlank_head?_paren rest)]

end Parts

namespace DefinitionReading

def afterName (r : DefinitionReading) : List Char :=
  r.slot ++ '(' :: r.rest

def afterGap (r : DefinitionReading) : List Char :=
  r.name ++ r.afterName

def afterDef (r : DefinitionReading) : List Char :=
  r.gap ++ r.afterGap

def line (r : DefinitionReading) : List Char :=
  r.margin ++ (r.opening ++ ("def".toList ++ r.afterDef))

theorem definedChars?_line (r : DefinitionReading) : definedChars? r.line = some r.name := by
  have hdef : "def".toList.isPrefixOf? ("def".toList ++ r.afterDef) = some r.afterDef :=
    List.isPrefixOf?_eq_some_iff_append_eq.mpr rfl
  have hgap : afterBlanks? r.afterDef = some r.afterGap :=
    afterBlanks?_append r.isGap (r.isName.not_isBlank_head? _)
  rw [definedChars?, line, dropWhile_eq_rest r.margin_blank (r.isOpening.not_isBlank_head? _),
    skipAsync_append r.isOpening, hdef, Option.bind_eq_bind, Option.bind_some, hgap,
    Option.bind_some]
  exact calledName?_append r.isName r.slot_blank r.rest

theorem exists_of_isDefinition {line name : List Char} (h : IsDefinition line name) :
    ∃ r : DefinitionReading, r.line = line ∧ r.name = name := by
  obtain ⟨margin, opening, gap, slot, rest, rfl, hmargin, hopening, hgap, hname, hslot⟩ := h
  exact ⟨⟨margin, opening, gap, name, slot, rest, hmargin, hopening, hgap, hname, hslot⟩, rfl, rfl⟩

theorem exists_iff_definedName? {line name : String} :
    definedName? line = some name ↔
      ∃ r : DefinitionReading, r.line = line.toList ∧ r.name = name.toList := by
  constructor
  · intro h
    exact exists_of_isDefinition (isDefinition_of_definedName? h)
  · rintro ⟨r, hline, hname⟩
    rw [definedName?, ← hline, definedChars?_line, hname, Option.map_some, String.ofList_toList]

/-- The first character after the margin says whether the line opens with `async`. -/
theorem opening_eq_of_append {opening opening' cs cs' : List Char} (h : IsOpening opening)
    (h' : IsOpening opening')
    (heq : opening ++ ("def".toList ++ cs) = opening' ++ ("def".toList ++ cs')) :
    opening = opening' ∧ cs = cs' := by
  have hrest : "def".toList ++ cs = "def".toList ++ cs' := by
    rw [← skipAsync_append h, heq, skipAsync_append h']
  refine ⟨?_, List.append_cancel_left hrest⟩
  rw [hrest] at heq
  exact List.append_cancel_right heq

theorem line_injective : Function.Injective line := by
  intro r q h
  obtain ⟨hmargin, h⟩ := append_inj_of_stop r.margin_blank (r.isOpening.not_isBlank_head? _)
    q.margin_blank (q.isOpening.not_isBlank_head? _) h
  obtain ⟨hopening, h⟩ := opening_eq_of_append r.isOpening q.isOpening h
  obtain ⟨hgap, h⟩ := append_inj_of_stop r.isGap.2 (r.isName.not_isBlank_head? _)
    q.isGap.2 (q.isName.not_isBlank_head? _) h
  obtain ⟨hname, h⟩ := append_inj_of_stop r.isName.isWord (not_isWord_head?_slot r.slot_blank _)
    q.isName.isWord (not_isWord_head?_slot q.slot_blank _) h
  obtain ⟨hslot, h⟩ := append_inj_of_stop r.slot_blank (not_isBlank_head?_paren _)
    q.slot_blank (not_isBlank_head?_paren _) h
  exact DefinitionReading.ext hmargin hopening hgap hname hslot (List.cons.inj h).2

theorem exists_head?_trim_line (r : DefinitionReading) :
    ∃ c, (trim r.line).head? = some c ∧ c ≠ '@' := by
  obtain ⟨c, rest, heq, hc, hat⟩ := r.isOpening.exists_cons r.afterDef
  refine ⟨c, ?_, hat⟩
  rw [line, heq]
  exact head?_trim r.margin_blank hc

end DefinitionReading

theorem definedName?_exact (line : String) :
    (∀ name : String, definedName? line = some name ↔
      ∃ r : DefinitionReading, r.line = line.toList ∧ r.name = name.toList) ∧
    (∀ r q : DefinitionReading, r.line = line.toList → q.line = line.toList → r = q) ∧
    ∀ r : DefinitionReading, r.line = line.toList →
      r.name ≠ [] ∧ trim line.toList ≠ [] ∧ (trim line.toList).head? ≠ some '@' := by
  refine ⟨fun name => DefinitionReading.exists_iff_definedName?, fun r q hr hq => ?_,
    fun r hr => ?_⟩
  · exact DefinitionReading.line_injective (hr.trans hq.symm)
  · obtain ⟨c, hc, hat⟩ := r.exists_head?_trim_line
    rw [← hr]
    refine ⟨r.isName.ne_nil, fun hnil => ?_, fun hhead => ?_⟩
    · rw [hnil] at hc
      cases hc
    · exact hat (Option.some.inj (hc.symm.trans hhead))

def asyncNamedDef : String :=
  "\t async  def async_def \t(def def(): pass"

theorem definedName?_exact_async :
    definedName? asyncNamedDef = some "async_def" ∧
    (∃ r : DefinitionReading, r.line = asyncNamedDef.toList) ∧
    (∀ r : DefinitionReading, r.line = asyncNamedDef.toList → r.name = "async_def".toList) ∧
    trim asyncNamedDef.toList ≠ [] ∧ (trim asyncNamedDef.toList).head? ≠ some '@' := by
  obtain ⟨hiff, hunique, hshape⟩ := definedName?_exact asyncNamedDef
  have hname : definedName? asyncNamedDef = some "async_def" := by decide +kernel
  obtain ⟨r, hline, hr⟩ := (hiff "async_def").mp hname
  refine ⟨hname, ⟨r, hline⟩, fun q hq => ?_, (hshape r hline).2⟩
  rw [hunique q r hq hline, hr]

end Source

end DiffReach
