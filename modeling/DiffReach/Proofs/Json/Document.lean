import DiffReach.Proofs.Json.Scalar

namespace DiffReach.Json

def IsGap (cs : List Char) : Prop :=
  ∀ c ∈ cs, isSpace c = true

inductive Meaning where
  | value (v : Value)
  | items (vs : List Value)
  | fields (fs : List (String × Value))

/-- The texts of a value, with room for so many values around those in it, of the items of a list
and of the fields of an object, each with the bracket that closes them. -/
inductive Spells (maxDigits : Nat) : Nat → List Char → Meaning → Prop
  | string {room : Nat} {body : List Char} {codes : List Nat} : SpellsRest [] body codes →
      Spells maxDigits room ('"' :: (body ++ ['"'])) (.value (.ofCodes codes))
  | word {room : Nat} {word : String} {v : Value} : (word, v) ∈ literals →
      Spells maxDigits room word.toList (.value v)
  | unsigned {room : Nat} {text : List Char} {v : Value} : SpellsUnsigned maxDigits false text v →
      Spells maxDigits room text (.value v)
  | minus {room : Nat} {text : List Char} {v : Value} : SpellsUnsigned maxDigits true text v →
      Spells maxDigits room ('-' :: text) (.value v)
  | emptyList {room : Nat} {gap : List Char} : IsGap gap →
      Spells maxDigits (room + 1) ('[' :: (gap ++ [']'])) (.value (.list []))
  | list {room : Nat} {gap text : List Char} {vs : List Value} : IsGap gap →
      Spells maxDigits room text (.items vs) →
      Spells maxDigits (room + 1) ('[' :: (gap ++ text)) (.value (.list vs))
  | lastItem {room : Nat} {text after : List Char} {v : Value} :
      Spells maxDigits room text (.value v) → IsGap after →
      Spells maxDigits room (text ++ (after ++ [']'])) (.items [v])
  | nextItem {room : Nat} {text after ahead others : List Char} {v : Value} {vs : List Value} :
      Spells maxDigits room text (.value v) → IsGap after → IsGap ahead →
      Spells maxDigits room others (.items vs) →
      Spells maxDigits room (text ++ (after ++ ',' :: (ahead ++ others))) (.items (v :: vs))
  | emptyObject {room : Nat} {gap : List Char} : IsGap gap →
      Spells maxDigits (room + 1) ('\x7b' :: (gap ++ ['\x7d'])) (.value (.object []))
  | object {room : Nat} {gap text : List Char} {fs : List (String × Value)} : IsGap gap →
      Spells maxDigits room text (.fields fs) →
      Spells maxDigits (room + 1) ('\x7b' :: (gap ++ text)) (.value (.object (Dict.gather fs)))
  | lastField {room : Nat} {body left right text after : List Char} {codes : List Nat}
      {v : Value} : SpellsRest [] body codes → IsGap left → IsGap right →
      Spells maxDigits room text (.value v) → IsGap after →
      Spells maxDigits room
        ('"' :: (body ++ '"' :: (left ++ ':' :: (right ++ (text ++ (after ++ ['\x7d']))))))
        (.fields [(Text.ofCodes codes, v)])
  | nextField {room : Nat} {body left right text after ahead others : List Char}
      {codes : List Nat} {v : Value} {fs : List (String × Value)} :
      SpellsRest [] body codes → IsGap left →
      IsGap right → Spells maxDigits room text (.value v) → IsGap after → IsGap ahead →
      Spells maxDigits room others (.fields fs) →
      Spells maxDigits room
        ('"' :: (body ++ '"' :: (left ++ ':' :: (right ++ (text ++ (after ++ ',' ::
          (ahead ++ others)))))))
        (.fields ((Text.ofCodes codes, v) :: fs))

def IsDocument (bounds : Bounds) (text : List Char) (v : Value) : Prop :=
  ∃ left body right, text = left ++ (body ++ right) ∧ IsGap left ∧ IsGap right ∧
    Spells bounds.maxDigits bounds.maxDepth body (.value v)

section Gaps

variable {gap cs : List Char}

theorem skipSpace_gap (hgap : IsGap gap) (hcs : ∀ c ∈ cs.head?, isSpace c = false) :
    skipSpace (gap ++ cs) = cs :=
  dropWhile_eq_rest hgap hcs

theorem skipSpace_gap_cons {c : Char} (hgap : IsGap gap) (hc : isSpace c = false)
    (cs : List Char) : skipSpace (gap ++ c :: cs) = c :: cs :=
  skipSpace_gap hgap fun _ hd => Option.mem_some_iff.mp hd ▸ hc

theorem exists_gap (cs : List Char) : ∃ gap, IsGap gap ∧ cs = gap ++ skipSpace cs :=
  ⟨cs.takeWhile isSpace, fun _ hc => List.mem_takeWhile_imp hc,
    List.takeWhile_append_dropWhile.symm⟩

theorem exists_gap_before {c : Char} {rest : List Char} (h : skipSpace cs = c :: rest) :
    ∃ left, IsGap left ∧ cs = left ++ c :: rest := by
  obtain ⟨left, hleft, hcs⟩ := exists_gap cs
  exact ⟨left, hleft, h ▸ hcs⟩

theorem exists_gaps_around {c : Char} {rest : List Char} (h : skipSpace cs = c :: rest) :
    ∃ left right, IsGap left ∧ IsGap right ∧ cs = left ++ c :: (right ++ skipSpace rest) := by
  obtain ⟨left, hleft, hcs⟩ := exists_gap_before h
  obtain ⟨right, hright, hrest⟩ := exists_gap rest
  exact ⟨left, right, hleft, hright, hrest ▸ hcs⟩

theorem ends_append (hgap : IsGap gap) (hcs : Ends cs) : Ends (gap ++ cs) := by
  intro c hc
  rcases mem_head?_append hc with hc | ⟨-, hc⟩
  · have hspace := hgap c (List.mem_of_mem_head? hc)
    simp only [isSpace, Bool.or_eq_true, beq_iff_eq] at hspace
    rcases hspace with ((rfl | rfl) | rfl) | rfl <;> decide
  · exact hcs c hc

theorem ends_cons {c : Char} (hc : c.isDigit = false ∧ c ≠ '.' ∧ c ≠ 'e' ∧ c ≠ 'E')
    (cs : List Char) : Ends (c :: cs) :=
  fun _ hd => Option.mem_some_iff.mp hd ▸ hc

theorem ends_gap (hgap : IsGap gap) : Ends gap :=
  List.append_nil gap ▸ ends_append hgap fun _ hc => (by cases hc)

theorem isGap_of_skipSpace (h : (skipSpace cs).isEmpty = true) : IsGap cs := by
  obtain ⟨gap, hgap, hcs⟩ := exists_gap cs
  rw [List.isEmpty_iff.mp h, List.append_nil] at hcs
  exact hcs ▸ hgap

end Gaps

section Heads

variable {maxDigits room : Nat} {text : List Char} {meaning : Meaning} {v : Value}

def Begins (c : Char) : Prop :=
  isSpace c = false ∧ c ≠ ']' ∧ c ≠ '\x7d'

theorem begins_of_isDigit {c : Char} (h : c.isDigit = true) : Begins c := by
  refine ⟨?_, ?_, ?_⟩
  · cases hspace : isSpace c with
    | false => rfl
    | true =>
      simp only [isSpace, Bool.or_eq_true, beq_iff_eq] at hspace
      rcases hspace with ((rfl | rfl) | rfl) | rfl <;> cases h
  · rintro rfl
    cases h
  · rintro rfl
    cases h

theorem SpellsUnsigned.exists_digit {negative : Bool}
    (h : SpellsUnsigned maxDigits negative text v) :
    ∃ c cs, text = c :: cs ∧ c.isDigit = true := by
  have hwhole {whole : List Char} (hrun : IsPlainRun whole) (others : List Char) :
      ∃ c cs, whole ++ others = c :: cs ∧ c.isDigit = true := by
    obtain ⟨c, cs, rfl⟩ := List.exists_cons_of_ne_nil hrun.ne_nil
    exact ⟨c, cs ++ others, rfl, hrun.isDigit c List.mem_cons_self⟩
  cases h with
  | int hrun => exact List.append_nil text ▸ hwhole hrun []
  | real hrun => exact hwhole hrun _

theorem exists_begins_of_word {word : String} (h : (word, v) ∈ literals) :
    ∃ c cs, word.toList = c :: cs ∧ Begins c ∧ c ≠ '"' ∧ c ≠ '[' ∧ c ≠ '\x7b' := by
  simp only [literals, List.mem_cons, Prod.mk.injEq, List.not_mem_nil, or_false] at h
  rcases h with ⟨rfl, -⟩ | ⟨rfl, -⟩ | ⟨rfl, -⟩ | ⟨rfl, -⟩ | ⟨rfl, -⟩ | ⟨rfl, -⟩ <;>
    exact ⟨_, _, rfl, ⟨rfl, by decide, by decide⟩, by decide, by decide, by decide⟩

theorem Spells.exists_begins (h : Spells maxDigits room text meaning) :
    ∃ c cs, text = c :: cs ∧ Begins c := by
  induction h with
  | word hword =>
    obtain ⟨c, cs, hcs, hbegins, -⟩ := exists_begins_of_word hword
    exact ⟨c, cs, hcs, hbegins⟩
  | unsigned hnumber =>
    obtain ⟨c, cs, hcs, hc⟩ := hnumber.exists_digit
    exact ⟨c, cs, hcs, begins_of_isDigit hc⟩
  | lastItem _ _ ih =>
    obtain ⟨c, cs, rfl, hc⟩ := ih
    exact ⟨c, _, rfl, hc⟩
  | nextItem _ _ _ _ ih =>
    obtain ⟨c, cs, rfl, hc⟩ := ih
    exact ⟨c, _, rfl, hc⟩
  | string | minus | emptyList | list | emptyObject | object | lastField | nextField =>
    exact ⟨_, _, rfl, rfl, by decide, by decide⟩

end Heads

section Steps

variable {maxDigits fuel room : Nat} {cs rest others : List Char} {v : Value} {c : Char}
  {before : List Value} {entries : List (String × Value)} {codes : List Nat} {e : Error}

theorem value_string (h : stringRest [] cs = .ok (codes, rest)) :
    value maxDigits (fuel + 1) room ('"' :: cs) = .ok (.ofCodes codes, rest) := by
  simp only [value, h]
  rfl

theorem value_list_close (h : skipSpace cs = ']' :: rest) :
    value maxDigits (fuel + 1) (room + 1) ('[' :: cs) = .ok (.list [], rest) := by
  simp only [value, h, if_neg (Nat.succ_ne_zero room)]

theorem value_list (h : skipSpace cs = c :: rest) (hc : c ≠ ']') :
    value maxDigits (fuel + 1) (room + 1) ('[' :: cs) =
      items maxDigits fuel room [] (c :: rest) := by
  simp only [value, h, if_neg (Nat.succ_ne_zero room)]
  split
  · rename_i hclose
    exact absurd (List.cons.inj hclose).1 hc
  · rfl

theorem value_object_close (h : skipSpace cs = '\x7d' :: rest) :
    value maxDigits (fuel + 1) (room + 1) ('\x7b' :: cs) = .ok (.object [], rest) := by
  simp only [value, h, if_neg (Nat.succ_ne_zero room)]

theorem value_object (h : skipSpace cs = c :: rest) (hc : c ≠ '\x7d') :
    value maxDigits (fuel + 1) (room + 1) ('\x7b' :: cs) =
      fields maxDigits fuel room [] (c :: rest) := by
  simp only [value, h, if_neg (Nat.succ_ne_zero room)]
  split
  · rename_i hclose
    exact absurd (List.cons.inj hclose).1 hc
  · rfl

theorem value_word (hstring : c ≠ '"') (hlist : c ≠ '[') (hobject : c ≠ '\x7b')
    (h : literal? (c :: cs) literals = some (v, rest)) :
    value maxDigits (fuel + 1) room (c :: cs) = .ok (v, rest) := by
  unfold value
  split
  · rename_i hcs
    exact absurd (List.cons.inj hcs).1 hstring
  · rename_i hcs
    exact absurd (List.cons.inj hcs).1 hlist
  · rename_i hcs
    exact absurd (List.cons.inj hcs).1 hobject
  · rw [h]

theorem value_unsigned (hc : c.isDigit = true) :
    value maxDigits (fuel + 1) room (c :: cs) = number maxDigits false (c :: cs) := by
  have hnone : literal? (c :: cs) literals = none := literal?_eq_none hc (Or.inl rfl)
  have hhead {d : Char} (hd : d.isDigit = false) (rest : List Char) (h : c :: cs = d :: rest) :
      False := by
    rw [(List.cons.inj h).1, hd] at hc
    cases hc
  rw [value.eq_6 maxDigits room (c :: cs) fuel (hhead rfl) (hhead rfl) (hhead rfl) (hhead rfl),
    hnone]

theorem value_minus (hc : c.isDigit = true) :
    value maxDigits (fuel + 1) room ('-' :: c :: cs) = number maxDigits true (c :: cs) := by
  have hnone : literal? ('-' :: c :: cs) literals = none := literal?_eq_none hc (Or.inr rfl)
  rw [value.eq_5, hnone]

theorem items_error (h : value maxDigits fuel room cs = .error e) :
    items maxDigits (fuel + 1) room before cs = .error e := by
  rw [items, h]

theorem items_close (h : value maxDigits fuel room cs = .ok (v, others))
    (hclose : skipSpace others = ']' :: rest) :
    items maxDigits (fuel + 1) room before cs = .ok (.list (v :: before).reverse, rest) := by
  simp only [items, h, hclose]

theorem items_comma (h : value maxDigits fuel room cs = .ok (v, others))
    (hcomma : skipSpace others = ',' :: rest) :
    items maxDigits (fuel + 1) room before cs =
      items maxDigits fuel room (v :: before) (skipSpace rest) := by
  simp only [items, h, hcomma]

theorem fields_error (hname : stringRest [] cs = .ok (codes, others))
    (hcolon : skipSpace others = ':' :: rest)
    (h : value maxDigits fuel room (skipSpace rest) = .error e) :
    fields maxDigits (fuel + 1) room entries ('"' :: cs) = .error e := by
  simp only [fields, hname, hcolon, h]

theorem fields_close {after last : List Char}
    (hname : stringRest [] cs = .ok (codes, others))
    (hcolon : skipSpace others = ':' :: rest)
    (h : value maxDigits fuel room (skipSpace rest) = .ok (v, after))
    (hclose : skipSpace after = '\x7d' :: last) :
    fields maxDigits (fuel + 1) room entries ('"' :: cs) =
      .ok (.object (Dict.gather ((Text.ofCodes codes, v) :: entries).reverse), last) := by
  simp only [fields, hname, hcolon, h, hclose]

theorem fields_comma {after last : List Char}
    (hname : stringRest [] cs = .ok (codes, others))
    (hcolon : skipSpace others = ':' :: rest)
    (h : value maxDigits fuel room (skipSpace rest) = .ok (v, after))
    (hcomma : skipSpace after = ',' :: last) :
    fields maxDigits (fuel + 1) room entries ('"' :: cs) =
      fields maxDigits fuel room ((Text.ofCodes codes, v) :: entries) (skipSpace last) := by
  simp only [fields, hname, hcolon, h, hcomma]

end Steps

section Completeness

/-- What is spelled is found, or there is a doubt and the reader stops at one of its bounds. -/
def Finds (doubt : Prop) (answer : Except Error (Value × List Char)) (v : Value)
    (rest : List Char) : Prop :=
  answer = .ok (v, rest) ∨ doubt ∧ (answer = .error .tooDeep ∨ answer = .error .tooManyDigits)

theorem Finds.mono {doubt doubt' : Prop} {answer : Except Error (Value × List Char)} {v : Value}
    {rest : List Char} (h : Finds doubt answer v rest) (himp : doubt → doubt') :
    Finds doubt' answer v rest :=
  h.imp_right fun hstop => ⟨himp hstop.1, hstop.2⟩

def Found (maxDigits fuel room : Nat) (doubt : Prop) (text rest : List Char) : Meaning → Prop
  | .value v => Ends rest → Finds doubt (value maxDigits fuel room (text ++ rest)) v rest
  | .items vs => ∀ before, Finds doubt (items maxDigits fuel room before (text ++ rest))
      (.list (before.reverse ++ vs)) rest
  | .fields fs => ∀ entries, Finds doubt (fields maxDigits fuel room entries (text ++ rest))
      (.object (Dict.gather (entries.reverse ++ fs))) rest

variable {maxDigits fuel room digits deep : Nat} {text rest : List Char} {meaning : Meaning}
  {v : Value} {vs : List Value}

theorem finds_string {body : List Char} {codes : List Nat} {doubt : Prop}
    (h : SpellsRest [] body codes) (rest : List Char) :
    Finds doubt (value maxDigits (fuel + 1) room ('"' :: (body ++ '"' :: rest)))
      (.ofCodes codes) rest :=
  Or.inl (value_string (stringRest_of_spellsRest h rest))

theorem finds_word {word : String} {doubt : Prop} (h : (word, v) ∈ literals) (rest : List Char) :
    Finds doubt (value maxDigits (fuel + 1) room (word.toList ++ rest)) v rest := by
  have hword := literal?_of_mem h rest
  obtain ⟨c, cs, hcs, -, hstring, hlist, hobject⟩ := exists_begins_of_word h
  rw [hcs, List.cons_append] at hword ⊢
  exact Or.inl (value_word hstring hlist hobject hword)

theorem finds_number {negative : Bool} {answer : Except Error (Value × List Char)}
    (h : SpellsUnsigned digits negative text v) (hends : Ends rest)
    (hanswer : answer = number maxDigits negative (text ++ rest)) :
    Finds (maxDigits < digits ∨ room < deep) answer v rest := by
  subst hanswer
  rcases number_of_spellsUnsigned h hends maxDigits with hok | ⟨hless, hmany⟩
  · exact Or.inl hok
  · exact Or.inr ⟨Or.inl hless, Or.inr hmany⟩

theorem Spells.skipSpace_append (h : Spells maxDigits room text meaning) {gap : List Char}
    (hgap : IsGap gap) (rest : List Char) : skipSpace (gap ++ (text ++ rest)) = text ++ rest := by
  obtain ⟨c, cs, rfl, hc⟩ := h.exists_begins
  exact skipSpace_gap_cons hgap hc.1 _

theorem exists_fuel {c : Char} {cs : List Char} (hfuel : 2 * (c :: cs).length ≤ fuel) :
    ∃ n, fuel = n + 1 ∧ 2 * cs.length < n := by
  rw [List.length_cons] at hfuel
  exact ⟨fuel - 1, by omega, by omega⟩

theorem Finds.items {cs after : List Char} {before : List Value} {doubt : Prop}
    (h : Finds doubt (value maxDigits fuel room cs) v after)
    (hnext : value maxDigits fuel room cs = .ok (v, after) →
      Finds doubt (items maxDigits (fuel + 1) room before cs) (.list vs) rest) :
    Finds doubt (items maxDigits (fuel + 1) room before cs) (.list vs) rest := by
  rcases h with hok | ⟨hdoubt, hdeep | hmany⟩
  · exact hnext hok
  · exact Or.inr ⟨hdoubt, Or.inl (items_error hdeep)⟩
  · exact Or.inr ⟨hdoubt, Or.inr (items_error hmany)⟩

theorem Finds.fields {cs others ahead after : List Char} {entries fs : List (String × Value)}
    {codes : List Nat} {doubt : Prop}
    (h : Finds doubt (value maxDigits fuel room (skipSpace ahead)) v after)
    (hname : stringRest [] cs = .ok (codes, others))
    (hcolon : skipSpace others = ':' :: ahead)
    (hnext : value maxDigits fuel room (skipSpace ahead) = .ok (v, after) →
      Finds doubt (fields maxDigits (fuel + 1) room entries ('"' :: cs)) (.object fs) rest) :
    Finds doubt (fields maxDigits (fuel + 1) room entries ('"' :: cs)) (.object fs) rest := by
  rcases h with hok | ⟨hdoubt, hdeep | hmany⟩
  · exact hnext hok
  · exact Or.inr ⟨hdoubt, Or.inl (fields_error hname hcolon hdeep)⟩
  · exact Or.inr ⟨hdoubt, Or.inr (fields_error hname hcolon hmany)⟩

/-- What is spelled within some bounds is found by a reader with others, if it has fuel for the
length of the text. Where the reader has less room or takes fewer digits, it may stop. -/
def IsFound (digits deep : Nat) (text : List Char) (meaning : Meaning) : Prop :=
  ∀ (maxDigits fuel room : Nat) (rest : List Char), 2 * text.length ≤ fuel →
    Found maxDigits fuel room (maxDigits < digits ∨ room < deep) text rest meaning

theorem isFound_string {body : List Char} {codes : List Nat} (h : SpellsRest [] body codes) :
    IsFound digits deep ('"' :: (body ++ ['"'])) (.value (.ofCodes codes)) := by
  intro maxDigits fuel room rest hfuel _
  obtain ⟨fuel, rfl, -⟩ := exists_fuel hfuel
  simpa only [List.cons_append, List.append_assoc, List.nil_append] using finds_string h rest

theorem isFound_word {word : String} (h : (word, v) ∈ literals) :
    IsFound digits deep word.toList (.value v) := by
  intro maxDigits fuel room rest hfuel _
  obtain ⟨c, cs, hcs, -⟩ := exists_begins_of_word h
  rw [hcs] at hfuel
  obtain ⟨fuel, rfl, -⟩ := exists_fuel hfuel
  exact finds_word h rest

theorem isFound_unsigned (h : SpellsUnsigned digits false text v) :
    IsFound digits deep text (.value v) := by
  intro maxDigits fuel room rest hfuel hends
  obtain ⟨c, cs, rfl, hc⟩ := h.exists_digit
  obtain ⟨fuel, rfl, -⟩ := exists_fuel hfuel
  exact finds_number h hends (value_unsigned hc)

theorem isFound_minus (h : SpellsUnsigned digits true text v) :
    IsFound digits deep ('-' :: text) (.value v) := by
  intro maxDigits fuel room rest hfuel hends
  obtain ⟨c, cs, rfl, hc⟩ := h.exists_digit
  obtain ⟨fuel, rfl, -⟩ := exists_fuel hfuel
  exact finds_number h hends (value_minus hc)

section Lists

variable {gap after ahead others : List Char}

theorem isFound_emptyList (hgap : IsGap gap) :
    IsFound digits (deep + 1) ('[' :: (gap ++ [']'])) (.value (.list [])) := by
  intro maxDigits fuel room rest hfuel _
  obtain ⟨fuel, rfl, -⟩ := exists_fuel hfuel
  cases room with
  | zero => exact Or.inr ⟨Or.inr (Nat.succ_pos _), Or.inl rfl⟩
  | succ room =>
    left
    rw [List.cons_append, List.append_assoc]
    exact value_list_close (skipSpace_gap_cons hgap rfl rest)

theorem isFound_list (hgap : IsGap gap) (h : Spells digits deep text (.items vs))
    (hitems : IsFound digits deep text (.items vs)) :
    IsFound digits (deep + 1) ('[' :: (gap ++ text)) (.value (.list vs)) := by
  intro maxDigits fuel room rest hfuel _
  obtain ⟨fuel, rfl, hless⟩ := exists_fuel hfuel
  rw [List.length_append] at hless
  cases room with
  | zero => exact Or.inr ⟨Or.inr (Nat.succ_pos _), Or.inl rfl⟩
  | succ room =>
    have hfound := hitems maxDigits fuel room rest (by omega) []
    have hskip := h.skipSpace_append hgap rest
    obtain ⟨c, cs, rfl, hc⟩ := h.exists_begins
    rw [List.cons_append, List.append_assoc, value_list hskip hc.2.1]
    exact hfound.mono (Or.imp_right Nat.succ_lt_succ)

theorem isFound_lastItem (hvalue : IsFound digits deep text (.value v)) (hafter : IsGap after) :
    IsFound digits deep (text ++ (after ++ [']'])) (.items [v]) := by
  intro maxDigits fuel room rest hfuel before
  simp only [List.length_append, List.length_cons, List.length_nil] at hfuel
  obtain ⟨fuel, rfl⟩ : ∃ n, fuel = n + 1 := ⟨fuel - 1, by omega⟩
  have hends : Ends (after ++ ']' :: rest) := ends_append hafter (ends_cons (by decide) rest)
  have hfound := hvalue maxDigits fuel room (after ++ ']' :: rest) (by omega) hends
  simp only [List.append_assoc, List.cons_append, List.nil_append]
  apply hfound.items
  intro hok
  rw [items_close hok (skipSpace_gap_cons hafter rfl rest), List.reverse_cons]
  exact Or.inl rfl

theorem isFound_nextItem (hvalue : IsFound digits deep text (.value v)) (hafter : IsGap after)
    (hahead : IsGap ahead) (h : Spells digits deep others (.items vs))
    (hothers : IsFound digits deep others (.items vs)) :
    IsFound digits deep (text ++ (after ++ ',' :: (ahead ++ others))) (.items (v :: vs)) := by
  intro maxDigits fuel room rest hfuel before
  simp only [List.length_append, List.length_cons] at hfuel
  obtain ⟨fuel, rfl⟩ : ∃ n, fuel = n + 1 := ⟨fuel - 1, by omega⟩
  have hends : Ends (after ++ ',' :: (ahead ++ (others ++ rest))) :=
    ends_append hafter (ends_cons (by decide) _)
  have hfound := hvalue maxDigits fuel room _ (by omega) hends
  have hnext := hothers maxDigits fuel room rest (by omega) (v :: before)
  simp only [List.append_assoc, List.cons_append]
  apply hfound.items
  intro hok
  rw [items_comma hok (skipSpace_gap_cons hafter rfl _), h.skipSpace_append hahead]
  rwa [List.reverse_cons, List.append_assoc] at hnext

end Lists

section Objects

variable {gap left right after ahead others body : List Char} {codes : List Nat}
  {fs : List (String × Value)}

theorem isFound_emptyObject (hgap : IsGap gap) :
    IsFound digits (deep + 1) ('\x7b' :: (gap ++ ['\x7d'])) (.value (.object [])) := by
  intro maxDigits fuel room rest hfuel _
  obtain ⟨fuel, rfl, -⟩ := exists_fuel hfuel
  cases room with
  | zero => exact Or.inr ⟨Or.inr (Nat.succ_pos _), Or.inl rfl⟩
  | succ room =>
    left
    rw [List.cons_append, List.append_assoc]
    exact value_object_close (skipSpace_gap_cons hgap rfl rest)

theorem isFound_object (hgap : IsGap gap) (h : Spells digits deep text (.fields fs))
    (hfields : IsFound digits deep text (.fields fs)) :
    IsFound digits (deep + 1) ('\x7b' :: (gap ++ text)) (.value (.object (Dict.gather fs))) := by
  intro maxDigits fuel room rest hfuel _
  obtain ⟨fuel, rfl, hless⟩ := exists_fuel hfuel
  rw [List.length_append] at hless
  cases room with
  | zero => exact Or.inr ⟨Or.inr (Nat.succ_pos _), Or.inl rfl⟩
  | succ room =>
    have hfound := hfields maxDigits fuel room rest (by omega) []
    have hskip := h.skipSpace_append hgap rest
    obtain ⟨c, cs, rfl, hc⟩ := h.exists_begins
    rw [List.cons_append, List.append_assoc, value_object hskip hc.2.2]
    exact hfound.mono (Or.imp_right Nat.succ_lt_succ)

theorem isFound_lastField (hname : SpellsRest [] body codes) (hleft : IsGap left)
    (hright : IsGap right) (h : Spells digits deep text (.value v))
    (hvalue : IsFound digits deep text (.value v)) (hafter : IsGap after) :
    IsFound digits deep
      ('"' :: (body ++ '"' :: (left ++ ':' :: (right ++ (text ++ (after ++ ['\x7d']))))))
      (.fields [(Text.ofCodes codes, v)]) := by
  intro maxDigits fuel room rest hfuel entries
  simp only [List.length_append, List.length_cons, List.length_nil] at hfuel
  obtain ⟨fuel, rfl⟩ : ∃ n, fuel = n + 1 := ⟨fuel - 1, by omega⟩
  have hends : Ends (after ++ '\x7d' :: rest) := ends_append hafter (ends_cons (by decide) rest)
  have hfound := hvalue maxDigits fuel room (after ++ '\x7d' :: rest) (by omega) hends
  rw [← h.skipSpace_append hright] at hfound
  simp only [List.append_assoc, List.cons_append, List.nil_append]
  apply hfound.fields (stringRest_of_spellsRest hname _) (skipSpace_gap_cons hleft rfl _)
  intro hok
  rw [fields_close (stringRest_of_spellsRest hname _) (skipSpace_gap_cons hleft rfl _) hok
    (skipSpace_gap_cons hafter rfl rest), List.reverse_cons]
  exact Or.inl rfl

theorem isFound_nextField (hname : SpellsRest [] body codes) (hleft : IsGap left)
    (hright : IsGap right) (h : Spells digits deep text (.value v))
    (hvalue : IsFound digits deep text (.value v)) (hafter : IsGap after) (hahead : IsGap ahead)
    (hnext : Spells digits deep others (.fields fs))
    (hothers : IsFound digits deep others (.fields fs)) :
    IsFound digits deep
      ('"' :: (body ++ '"' :: (left ++ ':' :: (right ++ (text ++ (after ++ ',' ::
        (ahead ++ others)))))))
      (.fields ((Text.ofCodes codes, v) :: fs)) := by
  intro maxDigits fuel room rest hfuel entries
  simp only [List.length_append, List.length_cons] at hfuel
  obtain ⟨fuel, rfl⟩ : ∃ n, fuel = n + 1 := ⟨fuel - 1, by omega⟩
  have hends : Ends (after ++ ',' :: (ahead ++ (others ++ rest))) :=
    ends_append hafter (ends_cons (by decide) _)
  have hfound := hvalue maxDigits fuel room _ (by omega) hends
  have hmore := hothers maxDigits fuel room rest (by omega) ((Text.ofCodes codes, v) :: entries)
  rw [← h.skipSpace_append hright] at hfound
  simp only [List.append_assoc, List.cons_append]
  apply hfound.fields (stringRest_of_spellsRest hname _) (skipSpace_gap_cons hleft rfl _)
  intro hok
  rw [fields_comma (stringRest_of_spellsRest hname _) (skipSpace_gap_cons hleft rfl _) hok
    (skipSpace_gap_cons hafter rfl _), hnext.skipSpace_append hahead]
  rwa [List.reverse_cons, List.append_assoc] at hmore

end Objects

theorem Spells.isFound (h : Spells digits deep text meaning) :
    IsFound digits deep text meaning := by
  induction h with
  | string hbody => exact isFound_string hbody
  | word hword => exact isFound_word hword
  | unsigned hnumber => exact isFound_unsigned hnumber
  | minus hnumber => exact isFound_minus hnumber
  | emptyList hgap => exact isFound_emptyList hgap
  | list hgap h hitems => exact isFound_list hgap h hitems
  | lastItem _ hafter hvalue => exact isFound_lastItem hvalue hafter
  | nextItem _ hafter hahead h hvalue hothers =>
    exact isFound_nextItem hvalue hafter hahead h hothers
  | emptyObject hgap => exact isFound_emptyObject hgap
  | object hgap h hfields => exact isFound_object hgap h hfields
  | lastField hname hleft hright h hafter hvalue =>
    exact isFound_lastField hname hleft hright h hvalue hafter
  | nextField hname hleft hright h hafter hahead hnext hvalue hothers =>
    exact isFound_nextField hname hleft hright h hvalue hafter hahead hnext hothers

end Completeness

section Soundness

def isOpening (c : Char) : Bool :=
  c == '[' || c == '\x7b'

def Fails (maxDigits room : Nat) (cs : List Char) : Error → Prop
  | .malformed => True
  | .tooDeep => room < cs.countP isOpening
  | .tooManyDigits =>
      ∃ run, run <:+: cs ∧ (∀ c ∈ run, c.isDigit = true) ∧ maxDigits < run.length

def Answers (maxDigits room : Nat) (cs : List Char) (spelled : List Char → Value → Prop) :
    Except Error (Value × List Char) → Prop
  | .ok (v, rest) => ∃ text, cs = text ++ rest ∧ spelled text v
  | .error e => Fails maxDigits room cs e

structure Sound (maxDigits fuel : Nat) : Prop where
  value : ∀ room cs, Answers maxDigits room cs
    (fun text v => Spells maxDigits room text (.value v)) (value maxDigits fuel room cs)
  items : ∀ room before cs, Answers maxDigits room cs
    (fun text v => ∃ vs, Spells maxDigits room text (.items vs) ∧ v = .list (before.reverse ++ vs))
    (items maxDigits fuel room before cs)
  fields : ∀ room entries cs, Answers maxDigits room cs
    (fun text v => ∃ fs, Spells maxDigits room text (.fields fs) ∧
      v = .object (Dict.gather (entries.reverse ++ fs)))
    (fields maxDigits fuel room entries cs)

variable {maxDigits fuel room : Nat} {cs others : List Char} {e : Error}
  {answer : Except Error (Value × List Char)}

theorem Fails.of_suffix (h : Fails maxDigits room others e) (hsuffix : others <:+ cs) :
    Fails maxDigits room cs e := by
  cases e with
  | malformed => trivial
  | tooDeep => exact lt_of_lt_of_le h (hsuffix.sublist.countP_le)
  | tooManyDigits =>
    obtain ⟨run, hrun, hdigits, hlength⟩ := h
    exact ⟨run, hrun.trans hsuffix.isInfix, hdigits, hlength⟩

theorem Fails.opening {c : Char} (h : Fails maxDigits room cs e) (hc : isOpening c = true) :
    Fails maxDigits (room + 1) (c :: cs) e := by
  cases e with
  | malformed => trivial
  | tooDeep =>
    have hcount : (c :: cs).countP isOpening = cs.countP isOpening + 1 :=
      List.countP_cons_of_pos hc
    simp only [Fails] at h ⊢
    omega
  | tooManyDigits =>
    obtain ⟨run, hrun, hdigits, hlength⟩ := h
    exact ⟨run, hrun.trans (List.suffix_cons c cs).isInfix, hdigits, hlength⟩

theorem answers_number {negative : Bool} {spelled : List Char → Value → Prop}
    (h : ∀ {text v}, SpellsUnsigned maxDigits negative text v → spelled text v) :
    Answers maxDigits room cs spelled (number maxDigits negative cs) := by
  cases hnumber : number maxDigits negative cs with
  | ok found =>
    obtain ⟨v, rest⟩ := found
    obtain ⟨text, hcs, htext⟩ := exists_spellsUnsigned hnumber
    exact ⟨text, hcs, h htext⟩
  | error e =>
    rcases number_error hnumber with rfl | ⟨rfl, run, hrun, hdigits, hlength⟩
    · trivial
    · exact ⟨run, hrun.isInfix, hdigits, hlength⟩

theorem Answers.after {front : List Char} {spelled spelled' : List Char → Value → Prop}
    (h : Answers maxDigits room cs spelled answer)
    (himp : ∀ {text v}, spelled text v → spelled' (front ++ text) v) :
    Answers maxDigits room (front ++ cs) spelled' answer := by
  match answer with
  | .ok (v, rest) =>
    obtain ⟨text, rfl, htext⟩ := h
    exact ⟨front ++ text, (List.append_assoc front text rest).symm, himp htext⟩
  | .error e => exact Fails.of_suffix h (List.suffix_append front cs)

theorem Answers.opening {c : Char} {gap : List Char} {spelled spelled' : List Char → Value → Prop}
    (h : Answers maxDigits room cs spelled answer) (hc : isOpening c = true)
    (himp : ∀ {text v}, spelled text v → spelled' (c :: (gap ++ text)) v) :
    Answers maxDigits (room + 1) (c :: (gap ++ cs)) spelled' answer := by
  match answer with
  | .ok (v, rest) =>
    obtain ⟨text, rfl, htext⟩ := h
    refine ⟨c :: (gap ++ text), ?_, himp htext⟩
    rw [List.cons_append, List.append_assoc]
  | .error e => exact Fails.opening (Fails.of_suffix h (List.suffix_append gap cs)) hc

theorem fails_tooDeep {c : Char} (hc : isOpening c = true) (maxDigits : Nat) (cs : List Char) :
    Fails maxDigits 0 (c :: cs) .tooDeep := by
  rw [Fails, List.countP_cons_of_pos hc]
  exact Nat.succ_pos _

theorem value_answers (h : Sound maxDigits fuel) (room : Nat) (cs : List Char) :
    Answers maxDigits room cs (fun text v => Spells maxDigits room text (.value v))
      (value maxDigits (fuel + 1) room cs) := by
  unfold value
  split
  · rename_i cs
    cases hstring : stringRest [] cs with
    | ok found =>
      obtain ⟨codes, rest⟩ := found
      obtain ⟨body, rfl, hbody⟩ := exists_spellsRest hstring
      exact ⟨'"' :: (body ++ ['"']), by simp, .string hbody⟩
    | error e =>
      rw [eq_malformed_of_stringRest hstring]
      trivial
  · rename_i cs
    cases room with
    | zero => exact fails_tooDeep rfl maxDigits cs
    | succ room =>
      rw [if_neg (Nat.succ_ne_zero room)]
      obtain ⟨gap, hgap, hcs⟩ := exists_gap cs
      generalize skipSpace cs = inner at hcs ⊢
      subst hcs
      split
      · rename_i rest
        exact ⟨'[' :: (gap ++ [']']), by simp, .emptyList hgap⟩
      · refine (h.items room [] inner).opening (c := '[') rfl ?_
        rintro text v ⟨vs, htext, rfl⟩
        exact .list hgap htext
  · rename_i cs
    cases room with
    | zero => exact fails_tooDeep rfl maxDigits cs
    | succ room =>
      rw [if_neg (Nat.succ_ne_zero room)]
      obtain ⟨gap, hgap, hcs⟩ := exists_gap cs
      generalize skipSpace cs = inner at hcs ⊢
      subst hcs
      split
      · rename_i rest
        exact ⟨'\x7b' :: (gap ++ ['\x7d']), by simp, .emptyObject hgap⟩
      · refine (h.fields room [] inner).opening (c := '\x7b') rfl ?_
        rintro text v ⟨fs, htext, rfl⟩
        exact .object hgap htext
  · split
    · rename_i found hfound
      obtain ⟨v, rest⟩ := found
      obtain ⟨word, hword, hcs⟩ := exists_word hfound
      exact ⟨word.toList, hcs, .word hword⟩
    · split
      · rename_i cs _ _ _ _
        have hnumber : Answers maxDigits room cs (SpellsUnsigned maxDigits true)
            (number maxDigits true cs) :=
          answers_number id
        change Answers maxDigits room (['-'] ++ cs) _ _
        exact hnumber.after fun htext => .minus htext
      · exact answers_number .unsigned

theorem items_answers (h : Sound maxDigits fuel) (room : Nat) (before : List Value)
    (cs : List Char) : Answers maxDigits room cs
      (fun text v => ∃ vs, Spells maxDigits room text (.items vs) ∧
        v = .list (before.reverse ++ vs))
      (items maxDigits (fuel + 1) room before cs) := by
  have hvalue := h.value room cs
  unfold items
  cases hread : value maxDigits fuel room cs with
  | error e => rwa [hread] at hvalue
  | ok found =>
    obtain ⟨v, rest⟩ := found
    rw [hread] at hvalue
    obtain ⟨text, rfl, htext⟩ := hvalue
    simp only
    split
    · rename_i others hcomma
      obtain ⟨after, ahead, hafter, hahead, hrest⟩ := exists_gaps_around hcomma
      have hcs : text ++ rest = (text ++ (after ++ ',' :: ahead)) ++ skipSpace others := by
        simp [hrest]
      rw [hcs]
      apply (h.items room (v :: before) (skipSpace others)).after
      rintro more _ ⟨vs, hmore, rfl⟩
      refine ⟨v :: vs, ?_, by simp⟩
      simpa using Spells.nextItem htext hafter hahead hmore
    · rename_i others hclose
      obtain ⟨after, hafter, rfl⟩ := exists_gap_before hclose
      exact ⟨text ++ (after ++ [']']), by simp, [v], .lastItem htext hafter, by simp⟩
    · trivial

theorem fields_answers (h : Sound maxDigits fuel) (room : Nat) (entries : List (String × Value))
    (cs : List Char) : Answers maxDigits room cs
      (fun text v => ∃ fs, Spells maxDigits room text (.fields fs) ∧
        v = .object (Dict.gather (entries.reverse ++ fs)))
      (fields maxDigits (fuel + 1) room entries cs) := by
  unfold fields
  split
  · rename_i cs
    cases hstring : stringRest [] cs with
    | error e =>
      rw [eq_malformed_of_stringRest hstring]
      trivial
    | ok found =>
      obtain ⟨codes, rest⟩ := found
      obtain ⟨body, rfl, hname⟩ := exists_spellsRest hstring
      simp only
      split
      · rename_i others hcolon
        obtain ⟨left, right, hleft, hright, rfl⟩ := exists_gaps_around hcolon
        have hvalue := h.value room (skipSpace others)
        generalize skipSpace others = tail at hvalue ⊢
        cases hread : value maxDigits fuel room tail with
        | error e =>
          rw [hread] at hvalue
          exact Fails.of_suffix hvalue
            ⟨'"' :: (body ++ '"' :: (left ++ ':' :: right)), by simp⟩
        | ok found =>
          obtain ⟨v, last⟩ := found
          rw [hread] at hvalue
          obtain ⟨text, rfl, htext⟩ := hvalue
          simp only
          split
          · rename_i more hcomma
            obtain ⟨after, ahead, hafter, hahead, hlast⟩ := exists_gaps_around hcomma
            have hcs : '"' :: (body ++ '"' :: (left ++ ':' :: (right ++ (text ++ last)))) =
                ('"' :: (body ++ '"' :: (left ++ ':' :: (right ++ (text ++ (after ++ ',' ::
                  ahead)))))) ++ skipSpace more := by
              simp [hlast]
            rw [hcs]
            apply (h.fields room ((Text.ofCodes codes, v) :: entries) (skipSpace more)).after
            rintro others _ ⟨fs, hspelled, rfl⟩
            refine ⟨(Text.ofCodes codes, v) :: fs, ?_, by simp⟩
            simpa using Spells.nextField hname hleft hright htext hafter hahead hspelled
          · rename_i more hclose
            obtain ⟨after, hafter, rfl⟩ := exists_gap_before hclose
            exact ⟨'"' :: (body ++ '"' :: (left ++ ':' :: (right ++ (text ++ (after ++
              ['\x7d']))))), by simp, [(Text.ofCodes codes, v)],
              .lastField hname hleft hright htext hafter, by simp⟩
          · trivial
      · trivial
  · trivial

theorem sound (maxDigits fuel : Nat) : Sound maxDigits fuel := by
  induction fuel with
  | zero => exact ⟨fun _ _ => trivial, fun _ _ _ => trivial, fun _ _ _ => trivial⟩
  | succ fuel ih => exact ⟨value_answers ih, items_answers ih, fields_answers ih⟩

end Soundness

section Documents

variable {bounds wider : Bounds} {s : String} {v : Value} {e : Error}

theorem readWith_of_isDocument (h : IsDocument wider s.toList v) (bounds : Bounds) :
    readWith bounds s = .ok v ∨
      (bounds.maxDigits < wider.maxDigits ∨ bounds.maxDepth < wider.maxDepth) ∧
        (readWith bounds s = .error .tooDeep ∨ readWith bounds s = .error .tooManyDigits) := by
  obtain ⟨left, body, right, hs, hleft, hright, hbody⟩ := h
  have hfuel : 2 * body.length ≤ 2 * (body ++ right).length + 2 := by
    rw [List.length_append]
    omega
  have hfound := hbody.isFound bounds.maxDigits _ bounds.maxDepth right hfuel (ends_gap hright)
  have hend : (skipSpace right).isEmpty = true :=
    List.isEmpty_iff.mpr (List.dropWhile_eq_nil_iff.mpr hright)
  simp only [readWith, hs, hbody.skipSpace_append hleft]
  rcases hfound with hok | ⟨hdoubt, hdeep | hmany⟩
  · left
    simp only [hok, hend, if_true]
  · refine Or.inr ⟨hdoubt, Or.inl ?_⟩
    simp only [hdeep]
  · refine Or.inr ⟨hdoubt, Or.inr ?_⟩
    simp only [hmany]

theorem readWith_answers (bounds : Bounds) (s : String) :
    (∀ v, readWith bounds s = .ok v → IsDocument bounds s.toList v) ∧
    ∀ e, readWith bounds s = .error e → Fails bounds.maxDigits bounds.maxDepth s.toList e := by
  obtain ⟨left, hleft, hs⟩ := exists_gap s.toList
  have hanswer := (sound bounds.maxDigits (2 * (skipSpace s.toList).length + 2)).value
    bounds.maxDepth (skipSpace s.toList)
  simp only [readWith]
  cases hread : value bounds.maxDigits (2 * (skipSpace s.toList).length + 2) bounds.maxDepth
      (skipSpace s.toList) with
  | error e =>
    rw [hread] at hanswer
    refine ⟨fun v h => (by cases h), fun e h => ?_⟩
    cases h
    exact Fails.of_suffix hanswer ⟨left, hs.symm⟩
  | ok found =>
    obtain ⟨v, rest⟩ := found
    rw [hread] at hanswer
    obtain ⟨body, hbody, hspells⟩ := hanswer
    simp only
    split
    · rename_i hend
      refine ⟨fun w h => ?_, fun e h => (by cases h)⟩
      cases h
      exact ⟨left, body, rest, by rw [← hbody, ← hs], hleft, isGap_of_skipSpace hend, hspells⟩
    · refine ⟨fun w h => (by cases h), fun e h => ?_⟩
      cases h
      trivial

theorem readWith_eq_ok_iff : readWith bounds s = .ok v ↔ IsDocument bounds s.toList v := by
  refine ⟨(readWith_answers bounds s).1 v, fun h => ?_⟩
  rcases readWith_of_isDocument h bounds with hok | ⟨hless | hless, -⟩
  · exact hok
  · exact absurd hless (Nat.lt_irrefl _)
  · exact absurd hless (Nat.lt_irrefl _)

theorem not_isDocument_of_malformed (h : readWith bounds s = .error .malformed) (wider : Bounds)
    (v : Value) : ¬ IsDocument wider s.toList v := by
  intro hdocument
  rcases readWith_of_isDocument hdocument bounds with hok | ⟨-, hdeep | hmany⟩
  · rw [h] at hok
    cases hok
  · rw [h] at hdeep
    cases hdeep
  · rw [h] at hmany
    cases hmany

end Documents

end DiffReach.Json
