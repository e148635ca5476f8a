import DiffReach.Json.Reader
import DiffReach.Proofs.Number.Numeral

namespace DiffReach.Json

open Numeral

section Strings

/-- The rest of a string up to its closing quote, after code points before it, the last one first,
with all its code points. -/
inductive SpellsRest : List Nat → List Char → List Nat → Prop
  | done (before : List Nat) : SpellsRest before [] before.reverse
  | char {before codes : List Nat} {c : Char} {cs : List Char} : c ≠ '"' → c ≠ '\\' →
      0x20 ≤ c.toNat → SpellsRest (c.toNat :: before) cs codes → SpellsRest before (c :: cs) codes
  | escape {before codes : List Nat} {e d : Char} {cs : List Char} : simpleEscape? e = some d →
      SpellsRest (d.toNat :: before) cs codes → SpellsRest before ('\\' :: e :: cs) codes
  | code {before codes : List Nat} {h1 h2 h3 h4 : Char} {n : Nat} {cs : List Char} :
      hexCode? [h1, h2, h3, h4] = some n → SpellsRest (addCode n before) cs codes →
      SpellsRest before ('\\' :: 'u' :: h1 :: h2 :: h3 :: h4 :: cs) codes

variable {before codes : List Nat} {body cs rest : List Char} {fault : Error}

theorem ne_u_of_simpleEscape? {e d : Char} (h : simpleEscape? e = some d) : e ≠ 'u' := by
  rintro rfl
  cases h

theorem stringRest_quote (before : List Nat) (cs : List Char) :
    stringRest before ('"' :: cs) = .ok (before.reverse, cs) := by
  rw [stringRest.eq_def]
  rfl

theorem stringRest_char {c : Char} (hquote : c ≠ '"') (hslash : c ≠ '\\')
    (hcontrol : 0x20 ≤ c.toNat) (before : List Nat) (cs : List Char) :
    stringRest before (c :: cs) = stringRest (c.toNat :: before) cs := by
  rw [stringRest.eq_def]
  simp only [if_neg hquote, if_neg hslash, if_neg (Nat.not_lt.mpr hcontrol)]

theorem stringRest_escape {e d : Char} (h : simpleEscape? e = some d) (before : List Nat)
    (cs : List Char) :
    stringRest before ('\\' :: e :: cs) = stringRest (d.toNat :: before) cs := by
  rw [stringRest.eq_def]
  simp only [if_neg (ne_u_of_simpleEscape? h), h]
  rfl

theorem stringRest_code {h1 h2 h3 h4 : Char} {n : Nat} (h : hexCode? [h1, h2, h3, h4] = some n)
    (before : List Nat) (cs : List Char) :
    stringRest before ('\\' :: 'u' :: h1 :: h2 :: h3 :: h4 :: cs) =
      stringRest (addCode n before) cs := by
  rw [stringRest.eq_def]
  simp only [h]
  rfl

theorem stringRest_of_spellsRest (h : SpellsRest before body codes) (rest : List Char) :
    stringRest before (body ++ '"' :: rest) = .ok (codes, rest) := by
  induction h with
  | done before => exact stringRest_quote before rest
  | char hquote hslash hcontrol _ ih =>
    rw [List.cons_append, stringRest_char hquote hslash hcontrol, ih]
  | escape hescape _ ih =>
    rw [List.cons_append, List.cons_append, stringRest_escape hescape, ih]
  | code hcode _ ih =>
    simp only [List.cons_append]
    rw [stringRest_code hcode, ih]

theorem spellsRest_char (h : ∀ c ∈ body, c ≠ '"' ∧ c ≠ '\\' ∧ 0x20 ≤ c.toNat)
    (before : List Nat) : SpellsRest before body (before.reverse ++ body.map Char.toNat) := by
  induction body generalizing before with
  | nil =>
    rw [List.map_nil, List.append_nil]
    exact .done before
  | cons c body ih =>
    obtain ⟨⟨hquote, hslash, hcontrol⟩, hbody⟩ := List.forall_mem_cons.mp h
    refine .char hquote hslash hcontrol ?_
    rw [List.map_cons, List.append_cons, ← List.reverse_cons]
    exact ih hbody (c.toNat :: before)

theorem isSurrogate_toNat (c : Char) : Text.isSurrogate c.toNat = false := by
  have hvalid : c.toNat < 0xD800 ∨ 0xDFFF < c.toNat ∧ c.toNat < 0x110000 := c.valid
  simp only [Text.isSurrogate, Text.isHighSurrogate, Text.isLowSurrogate, Bool.or_eq_false_iff,
    Bool.and_eq_false_iff, decide_eq_false_iff_not]
  omega

theorem ofCodes_toNat (cs : List Char) : Text.ofCodes (cs.map Char.toNat) = String.ofList cs := by
  rw [Text.ofCodes, List.map_map]
  refine congrArg String.ofList (List.map_id'' (fun c => ?_) cs)
  rw [Function.comp_apply, isSurrogate_toNat, if_neg Bool.false_ne_true, Char.ofNat_toNat]

theorem value_ofCodes_toNat (cs : List Char) :
    Value.ofCodes (cs.map Char.toNat) = .str (String.ofList cs) := by
  have hwhole : ¬ (cs.map Char.toNat).any Text.isSurrogate = true := by
    simp [isSurrogate_toNat]
  rw [Value.ofCodes, dif_neg hwhole, ofCodes_toNat]

theorem stringRest_malformed_code (h : ∀ h1 h2 h3 h4 others n,
    cs = h1 :: h2 :: h3 :: h4 :: others → hexCode? [h1, h2, h3, h4] ≠ some n)
    (before : List Nat) : stringRest before ('\\' :: 'u' :: cs) = .error .malformed := by
  rw [stringRest.eq_def]
  rcases cs with _ | ⟨h1, _ | ⟨h2, _ | ⟨h3, _ | ⟨h4, cs⟩⟩⟩⟩
  · rfl
  · rfl
  · rfl
  · rfl
  · cases hcode : hexCode? [h1, h2, h3, h4] with
    | some n => exact absurd hcode (h h1 h2 h3 h4 cs n rfl)
    | none =>
      simp only [hcode]
      rfl

theorem stringRest_malformed_escape {e : Char} (hu : e ≠ 'u') (h : simpleEscape? e = none)
    (before : List Nat) (cs : List Char) :
    stringRest before ('\\' :: e :: cs) = .error .malformed := by
  rw [stringRest.eq_def]
  simp only [if_neg hu, h]
  rfl

theorem stringRest_malformed_char {c : Char} (hquote : c ≠ '"') (hslash : c ≠ '\\')
    (hcontrol : c.toNat < 0x20) (before : List Nat) (cs : List Char) :
    stringRest before (c :: cs) = .error .malformed := by
  rw [stringRest.eq_def]
  simp only [if_neg hquote, if_neg hslash, if_pos hcontrol]

def ReadsRest (before : List Nat) (cs : List Char) : Prop :=
  stringRest before cs = .error .malformed ∨
    ∃ body codes rest, cs = body ++ '"' :: rest ∧ SpellsRest before body codes

theorem ReadsRest.step {next : List Nat} {others : List Char} (h : ReadsRest next others)
    (front : List Char)
    (hstep : stringRest before (front ++ others) = stringRest next others)
    (hspells : ∀ {body codes}, SpellsRest next body codes →
      SpellsRest before (front ++ body) codes) : ReadsRest before (front ++ others) := by
  rcases h with herror | ⟨body, codes, rest, rfl, hbody⟩
  · exact Or.inl (hstep.trans herror)
  · exact Or.inr ⟨front ++ body, codes, rest, (List.append_assoc ..).symm, hspells hbody⟩

theorem readsRest (before : List Nat) (cs : List Char) : ReadsRest before cs := by
  -- on the length, since an escape takes more than one character
  induction hlength : cs.length using Nat.strong_induction_on generalizing before cs with
  | _ n ih =>
  subst hlength
  cases cs with
  | nil =>
    left
    rw [stringRest.eq_def]
  | cons c cs =>
    by_cases hquote : c = '"'
    · subst hquote
      exact Or.inr ⟨[], _, cs, rfl, .done before⟩
    by_cases hslash : c = '\\'
    · subst hslash
      cases cs with
      | nil =>
        left
        rw [stringRest.eq_def]
        rfl
      | cons e cs =>
        by_cases hu : e = 'u'
        · subst hu
          by_cases hcode : ∃ h1 h2 h3 h4 others n,
              cs = h1 :: h2 :: h3 :: h4 :: others ∧ hexCode? [h1, h2, h3, h4] = some n
          · obtain ⟨h1, h2, h3, h4, others, n, rfl, hcode⟩ := hcode
            have hothers := ih others.length (by simp only [List.length_cons]; omega)
              (addCode n before) others rfl
            exact hothers.step ['\\', 'u', h1, h2, h3, h4]
              (stringRest_code hcode before others) (.code hcode)
          · left
            apply stringRest_malformed_code
            intro h1 h2 h3 h4 others n hcs hn
            exact hcode ⟨h1, h2, h3, h4, others, n, hcs, hn⟩
        · cases hescape : simpleEscape? e with
          | none => exact Or.inl (stringRest_malformed_escape hu hescape before cs)
          | some d =>
            have hothers := ih cs.length (by simp only [List.length_cons]; omega)
              (d.toNat :: before) cs rfl
            exact hothers.step ['\\', e] (stringRest_escape hescape before cs)
              (.escape hescape)
    · by_cases hcontrol : c.toNat < 0x20
      · exact Or.inl (stringRest_malformed_char hquote hslash hcontrol before cs)
      · have hprintable := Nat.not_lt.mp hcontrol
        have hothers := ih cs.length (Nat.lt_succ_self _) (c.toNat :: before) cs rfl
        exact hothers.step [c] (stringRest_char hquote hslash hprintable before cs)
          (.char hquote hslash hprintable)

theorem exists_spellsRest (h : stringRest before cs = .ok (codes, rest)) :
    ∃ body, cs = body ++ '"' :: rest ∧ SpellsRest before body codes := by
  rcases readsRest before cs with herror | ⟨body, t, after, rfl, hbody⟩
  · rw [herror] at h
    cases h
  · rw [stringRest_of_spellsRest hbody] at h
    cases h
    exact ⟨body, rfl, hbody⟩

theorem eq_malformed_of_stringRest (h : stringRest before cs = .error fault) :
    fault = .malformed := by
  rcases readsRest before cs with herror | ⟨body, t, after, rfl, hbody⟩
  · rw [herror] at h
    cases h
    rfl
  · rw [stringRest_of_spellsRest hbody] at h
    cases h

end Strings

section Numbers

inductive IsPlainRun : List Char → Prop
  | zero : IsPlainRun ['0']
  | run {d : Char} {ds : List Char} : d ≠ '0' → (∀ c ∈ d :: ds, c.isDigit = true) →
      IsPlainRun (d :: ds)

inductive SpellsFraction : List Char → List Char → Prop
  | absent : SpellsFraction [] []
  | point {ds : List Char} : ds ≠ [] → (∀ c ∈ ds, c.isDigit = true) → SpellsFraction ('.' :: ds) ds

inductive SpellsExponent : List Char → Option Int → Prop
  | absent : SpellsExponent [] none
  | marked {mark : Char} {sign ds : List Char} {negative : Bool} : mark = 'e' ∨ mark = 'E' →
      SpellsSign sign negative → ds ≠ [] → (∀ c ∈ ds, c.isDigit = true) →
      SpellsExponent (mark :: (sign ++ ds))
        (some (signed negative (Nat.ofDigits 10 (digitValues ds).reverse)))

inductive SpellsUnsigned (maxDigits : Nat) (negative : Bool) : List Char → Value → Prop
  | int {whole : List Char} : IsPlainRun whole → whole.length ≤ maxDigits →
      SpellsUnsigned maxDigits negative whole
        (.int (signed negative (Nat.ofDigits 10 (digitValues whole).reverse)))
  | real {whole point fraction power : List Char} {e : Option Int} {x : Binary64} :
      IsPlainRun whole → SpellsFraction point fraction → SpellsExponent power e →
      point ++ power ≠ [] →
      Binary64.Rounds negative
        (Binary64.decimal (digitValues (whole ++ fraction)) (e.getD 0 - fraction.length)) x →
      SpellsUnsigned maxDigits negative (whole ++ (point ++ power)) (.float x)

def Ends (rest : List Char) : Prop :=
  ∀ c ∈ rest.head?, c.isDigit = false ∧ c ≠ '.' ∧ c ≠ 'e' ∧ c ≠ 'E'

variable {whole point fraction power cs rest : List Char} {e : Option Int} {negative : Bool}
  {maxDigits : Nat} {v : Value} {fault : Error}

theorem IsPlainRun.ne_nil (h : IsPlainRun whole) : whole ≠ [] := by
  cases h <;> simp

theorem IsPlainRun.isDigit (h : IsPlainRun whole) : ∀ c ∈ whole, c.isDigit = true := by
  cases h with
  | zero => simp
  | run _ hds => exact hds

theorem SpellsFraction.isDigit (h : SpellsFraction point fraction) :
    ∀ c ∈ fraction, c.isDigit = true := by
  cases h with
  | absent => simp
  | point _ hds => exact hds

theorem lt_ten_of_isDigit {c : Char} (h : c.isDigit = true) : c.toNat - 0x30 < 10 := by
  have hlast : c.toNat ≤ 57 := (Char.isDigit_iff_toNat.mp h).2
  omega

theorem digitValues_lt_ten (h : ∀ c ∈ cs, c.isDigit = true) : ∀ d ∈ digitValues cs, d < 10 := by
  intro d hd
  obtain ⟨c, hc, rfl⟩ := List.mem_map.mp hd
  exact lt_ten_of_isDigit (h c hc)

theorem digitRun_append (cs : List Char) : cs = digitRun cs ++ cs.dropWhile Char.isDigit :=
  List.takeWhile_append_dropWhile.symm

theorem drop_digitRun (cs : List Char) :
    cs.drop (digitRun cs).length = cs.dropWhile Char.isDigit := by
  have hcut : (digitRun cs ++ cs.dropWhile Char.isDigit).drop (digitRun cs).length =
      cs.dropWhile Char.isDigit :=
    List.drop_left
  rwa [← digitRun_append] at hcut

theorem isDigit_digitRun (cs : List Char) : ∀ c ∈ digitRun cs, c.isDigit = true :=
  fun _ hc => List.mem_takeWhile_imp hc

theorem takenRun_eq (h : IsPlainRun whole) (hrest : ∀ c ∈ rest.head?, c.isDigit = false) :
    (if (digitRun (whole ++ rest)).head? = some '0' then ['0'] else digitRun (whole ++ rest)) =
      whole := by
  have hrun : digitRun (whole ++ rest) = whole := takeWhile_eq_front h.isDigit hrest
  rw [hrun]
  cases h with
  | zero => rfl
  | run hd _ => exact if_neg fun hzero => hd (Option.some.inj hzero)

theorem isPlainRun_takenRun (hne : digitRun cs ≠ []) :
    IsPlainRun (if (digitRun cs).head? = some '0' then ['0'] else digitRun cs) := by
  split
  · exact .zero
  · rename_i hzero
    have hdigits := isDigit_digitRun cs
    cases hrun : digitRun cs with
    | nil => exact absurd hrun hne
    | cons d ds =>
      rw [hrun] at hzero hdigits
      exact .run (fun hd => hzero (by rw [hd]; rfl)) hdigits

theorem exists_takenRun (cs : List Char) :
    ∃ rest, cs = (if (digitRun cs).head? = some '0' then ['0'] else digitRun cs) ++ rest := by
  have hfront : digitRun cs <+: cs := List.takeWhile_prefix _
  split
  · rename_i hzero
    obtain ⟨ds, hds⟩ := List.head?_eq_some_iff.mp hzero
    rw [hds] at hfront
    obtain ⟨rest, hrest⟩ := hfront
    exact ⟨ds ++ rest, hrest.symm⟩
  · obtain ⟨rest, hrest⟩ := hfront
    exact ⟨rest, hrest.symm⟩

theorem fractionPart_point (hne : digitRun cs ≠ []) :
    fractionPart ('.' :: cs) = (digitRun cs, cs.dropWhile Char.isDigit) := by
  rw [← drop_digitRun, fractionPart]
  split
  · rename_i hnil
    exact absurd hnil hne
  · rfl

theorem fractionPart_append (h : SpellsFraction point fraction)
    (hrest : ∀ c ∈ rest.head?, c.isDigit = false) (hdot : point = [] → rest.head? ≠ some '.') :
    fractionPart (point ++ rest) = (fraction, rest) := by
  cases h with
  | absent =>
    rw [List.nil_append, fractionPart]
    rintro others rfl
    exact hdot rfl rfl
  | point hne hds =>
    have hrun : digitRun (fraction ++ rest) = fraction := takeWhile_eq_front hds hrest
    rw [List.cons_append, fractionPart_point (by rwa [hrun]), hrun,
      dropWhile_eq_rest hds hrest]

theorem exists_fractionPart (cs : List Char) : ∃ point,
    cs = point ++ (fractionPart cs).2 ∧ SpellsFraction point (fractionPart cs).1 := by
  unfold fractionPart
  split
  · rename_i cs
    split
    · exact ⟨[], rfl, .absent⟩
    · rename_i hne
      refine ⟨'.' :: digitRun cs, ?_, .point hne (isDigit_digitRun cs)⟩
      rw [drop_digitRun, List.cons_append, ← digitRun_append]
  · exact ⟨[], rfl, .absent⟩

theorem exponentPart_append (h : SpellsExponent power e)
    (hrest : ∀ c ∈ rest.head?, c.isDigit = false)
    (hmark : power = [] → ∀ c ∈ rest.head?, c ≠ 'e' ∧ c ≠ 'E') :
    exponentPart (power ++ rest) = (e, rest) := by
  cases h with
  | absent =>
    cases rest with
    | nil => rfl
    | cons c rest =>
      obtain ⟨he, hE⟩ := hmark rfl c rfl
      rw [List.nil_append, exponentPart, if_neg (by simp [he, hE])]
  | @marked mark sign ds negative he hsign hne hds =>
    have hrun : digitRun (ds ++ rest) = ds := takeWhile_eq_front hds hrest
    have hbare : ∀ c ∈ (ds ++ rest).head?, c ≠ '+' ∧ c ≠ '-' := by
      obtain ⟨d, ds, rfl⟩ := List.exists_cons_of_ne_nil hne
      rintro c ⟨rfl⟩
      have hd := hds d List.mem_cons_self
      constructor <;> rintro rfl <;> cases hd
    rw [List.cons_append, List.append_assoc, exponentPart, if_pos (by simpa using he)]
    simp only [takeSign_append hsign hbare]
    rw [hrun]
    split
    · exact absurd rfl hne
    · rw [Binary64.valueOf_eq_ofDigits, List.drop_left]
      rfl

theorem exists_exponentPart (cs : List Char) : ∃ power,
    cs = power ++ (exponentPart cs).2 ∧ SpellsExponent power (exponentPart cs).1 := by
  cases cs with
  | nil => exact ⟨[], rfl, .absent⟩
  | cons mark cs =>
    simp only [exponentPart]
    split
    · rename_i hmark
      obtain ⟨sign, hcs, hsign⟩ := exists_takeSign cs
      generalize takeSign cs = taken at hcs hsign
      obtain ⟨negative, body⟩ := taken
      simp only
      split
      · exact ⟨[], rfl, .absent⟩
      · rename_i hne
        rw [Binary64.valueOf_eq_ofDigits, drop_digitRun]
        refine ⟨mark :: (sign ++ digitRun body), ?_,
          .marked (by simpa using hmark) hsign hne (isDigit_digitRun body)⟩
        rw [List.cons_append, List.append_assoc, ← digitRun_append]
        exact congrArg _ hcs
    · exact ⟨[], rfl, .absent⟩

def numberOf (maxDigits : Nat) (negative : Bool) (whole fraction : List Char) (e : Option Int)
    (rest : List Char) : Except Error (Value × List Char) :=
  if fraction.isEmpty && e.isNone then
    if maxDigits < whole.length then .error .tooManyDigits
    else .ok (.int (signed negative (Nat.ofDigits 10 (digitValues whole).reverse)), rest)
  else
    .ok (.float (Binary64.ofDecimal negative (digitValues (whole ++ fraction))
      (e.getD 0 - fraction.length)), rest)

theorem number_of_parts {after : List Char} (hne : whole ≠ [])
    (hwhole : (if (digitRun (whole ++ after)).head? = some '0' then ['0']
      else digitRun (whole ++ after)) = whole)
    (hfraction : fractionPart after = (fraction, cs)) (hexponent : exponentPart cs = (e, rest)) :
    number maxDigits negative (whole ++ after) =
      numberOf maxDigits negative whole fraction e rest := by
  unfold number
  simp only [hwhole, List.drop_left, hfraction, hexponent, Binary64.valueOf_eq_ofDigits]
  rw [if_neg (by simpa using hne)]
  rfl

theorem SpellsFraction.eq_nil_iff (h : SpellsFraction point fraction) :
    fraction = [] ↔ point = [] := by
  cases h with
  | absent => rfl
  | point hne _ => simpa using hne

theorem SpellsExponent.eq_none_iff (h : SpellsExponent power e) : e = none ↔ power = [] := by
  cases h <;> simp

theorem isEmpty_and_isNone_iff (hfraction : SpellsFraction point fraction)
    (hexponent : SpellsExponent power e) :
    (fraction.isEmpty && e.isNone) = true ↔ point ++ power = [] := by
  rw [Bool.and_eq_true, List.isEmpty_iff, Option.isNone_iff_eq_none, hfraction.eq_nil_iff,
    hexponent.eq_none_iff, List.append_eq_nil_iff]

theorem rounds_mantissa (hwhole : IsPlainRun whole) (hfraction : SpellsFraction point fraction)
    (negative : Bool) (power : Int) :
    Binary64.Rounds negative (Binary64.decimal (digitValues (whole ++ fraction)) power)
      (Binary64.ofDecimal negative (digitValues (whole ++ fraction)) power) := by
  apply Binary64.rounds_ofDecimal
  apply digitValues_lt_ten
  intro c hc
  exact (List.mem_append.mp hc).elim (hwhole.isDigit c) (hfraction.isDigit c)

theorem SpellsExponent.head (h : SpellsExponent power e) {c : Char} (hc : c ∈ power.head?) :
    c = 'e' ∨ c = 'E' := by
  cases h with
  | absent => cases hc
  | marked hmark => exact Option.mem_some_iff.mp hc ▸ hmark

theorem SpellsFraction.head (h : SpellsFraction point fraction) {c : Char} (hc : c ∈ point.head?) :
    c = '.' := by
  cases h with
  | absent => cases hc
  | point => exact (Option.mem_some_iff.mp hc).symm

theorem number_append (hwhole : IsPlainRun whole) (hfraction : SpellsFraction point fraction)
    (hexponent : SpellsExponent power e) (hends : Ends rest) (maxDigits : Nat) (negative : Bool) :
    number maxDigits negative (whole ++ (point ++ (power ++ rest))) =
      numberOf maxDigits negative whole fraction e rest := by
  have hpower : ∀ c ∈ (power ++ rest).head?, c.isDigit = false ∧ c ≠ '.' := by
    intro c hc
    rcases mem_head?_append hc with hc | ⟨-, hc⟩
    · rcases hexponent.head hc with rfl | rfl <;> decide
    · exact ⟨(hends c hc).1, (hends c hc).2.1⟩
  have hpoint : ∀ c ∈ (point ++ (power ++ rest)).head?, c.isDigit = false := by
    intro c hc
    rcases mem_head?_append hc with hc | ⟨-, hc⟩
    · rw [hfraction.head hc]
      decide
    · exact (hpower c hc).1
  apply number_of_parts hwhole.ne_nil (takenRun_eq hwhole hpoint)
  · exact fractionPart_append hfraction (fun c hc => (hpower c hc).1)
      fun _ hdot => (hpower '.' hdot).2 rfl
  · exact exponentPart_append hexponent (fun c hc => (hends c hc).1)
      fun _ c hc => (hends c hc).2.2

theorem exists_number_parts (hne : digitRun cs ≠ []) (maxDigits : Nat) (negative : Bool) :
    ∃ whole point fraction power e rest,
    cs = whole ++ (point ++ (power ++ rest)) ∧ IsPlainRun whole ∧ SpellsFraction point fraction ∧
    SpellsExponent power e ∧
    number maxDigits negative cs = numberOf maxDigits negative whole fraction e rest := by
  obtain ⟨after, hcs⟩ := exists_takenRun cs
  have hplain := isPlainRun_takenRun hne
  generalize hwhole : (if (digitRun cs).head? = some '0' then ['0'] else digitRun cs) = whole
    at hcs hplain
  obtain ⟨point, hafter, hfraction⟩ := exists_fractionPart after
  obtain ⟨power, hothers, hexponent⟩ := exists_exponentPart (fractionPart after).2
  refine ⟨whole, point, _, power, _, (exponentPart (fractionPart after).2).2, ?_, hplain, hfraction,
    hexponent, ?_⟩
  · rw [← hothers, ← hafter]
    exact hcs
  · subst hcs
    exact number_of_parts hplain.ne_nil hwhole rfl rfl

theorem number_eq_malformed (h : digitRun cs = []) :
    number maxDigits negative cs = .error .malformed := by
  simp only [number, h]
  rfl

theorem number_of_spellsUnsigned {text : List Char} {others : Nat}
    (h : SpellsUnsigned others negative text v) (hends : Ends rest) (maxDigits : Nat) :
    number maxDigits negative (text ++ rest) = .ok (v, rest) ∨
      maxDigits < others ∧ number maxDigits negative (text ++ rest) = .error .tooManyDigits := by
  cases h with
  | int hwhole hlength =>
    have hnumber : number maxDigits negative (text ++ rest) =
        numberOf maxDigits negative text [] none rest :=
      number_append hwhole .absent .absent hends maxDigits negative
    have hparts : (([] : List Char).isEmpty && (none : Option Int).isNone) = true := rfl
    rw [hnumber, numberOf, if_pos hparts]
    split
    · rename_i hmany
      exact Or.inr ⟨by omega, rfl⟩
    · exact Or.inl rfl
  | @real whole point fraction power e x hwhole hfraction hexponent hne hrounds =>
    left
    have hparts := (isEmpty_and_isNone_iff hfraction hexponent).not.mpr hne
    rw [List.append_assoc, List.append_assoc, number_append hwhole hfraction hexponent hends,
      numberOf, if_neg hparts, hrounds.unique (rounds_mantissa hwhole hfraction negative _)]

theorem exists_spellsUnsigned (h : number maxDigits negative cs = .ok (v, rest)) :
    ∃ text, cs = text ++ rest ∧ SpellsUnsigned maxDigits negative text v := by
  by_cases hne : digitRun cs = []
  · rw [number_eq_malformed hne] at h
    cases h
  obtain ⟨whole, point, fraction, power, e, others, rfl, hwhole, hfraction, hexponent, hnumber⟩ :=
    exists_number_parts hne maxDigits negative
  rw [hnumber, numberOf] at h
  split at h
  · rename_i hparts
    obtain ⟨rfl, rfl⟩ :=
      List.append_eq_nil_iff.mp ((isEmpty_and_isNone_iff hfraction hexponent).mp hparts)
    split at h
    · cases h
    · rename_i hlength
      cases h
      exact ⟨whole, rfl, .int hwhole (Nat.not_lt.mp hlength)⟩
  · rename_i hparts
    cases h
    refine ⟨whole ++ (point ++ power), by simp only [List.append_assoc], ?_⟩
    exact .real hwhole hfraction hexponent
      ((isEmpty_and_isNone_iff hfraction hexponent).not.mp hparts)
      (rounds_mantissa hwhole hfraction negative _)

theorem number_error (h : number maxDigits negative cs = .error fault) : fault = .malformed ∨
    fault = .tooManyDigits ∧
      ∃ run, run <+: cs ∧ (∀ c ∈ run, c.isDigit = true) ∧ maxDigits < run.length := by
  by_cases hne : digitRun cs = []
  · rw [number_eq_malformed hne] at h
    cases h
    exact Or.inl rfl
  obtain ⟨whole, point, fraction, power, e, others, rfl, hwhole, -, -, hnumber⟩ :=
    exists_number_parts hne maxDigits negative
  rw [hnumber, numberOf] at h
  split at h
  · split at h
    · rename_i hmany
      cases h
      exact Or.inr ⟨rfl, whole, List.prefix_append whole _, hwhole.isDigit, hmany⟩
    · cases h
  · cases h

end Numbers

section Words

variable {cs rest : List Char} {v : Value} {word : String}

theorem literal?_of_mem (h : (word, v) ∈ literals) (rest : List Char) :
    literal? (word.toList ++ rest) literals = some (v, rest) := by
  simp only [literals, List.mem_cons, Prod.mk.injEq, List.not_mem_nil, or_false] at h
  rcases h with ⟨rfl, rfl⟩ | ⟨rfl, rfl⟩ | ⟨rfl, rfl⟩ | ⟨rfl, rfl⟩ | ⟨rfl, rfl⟩ | ⟨rfl, rfl⟩ <;> rfl

theorem exists_word {words : List (String × Value)} (h : literal? cs words = some (v, rest)) :
    ∃ word, (word, v) ∈ words ∧ cs = word.toList ++ rest := by
  induction words with
  | nil => cases h
  | cons first words ih =>
    obtain ⟨word, value⟩ := first
    rw [literal?] at h
    split at h
    · rename_i after hword
      cases h
      exact ⟨word, List.mem_cons_self, (List.append_eq_of_isPrefixOf?_eq_some hword).symm⟩
    · obtain ⟨word, hmem, hcs⟩ := ih h
      exact ⟨word, List.mem_cons_of_mem _ hmem, hcs⟩

theorem not_isDigit_of_word {c : Char} (h : (word, v) ∈ literals)
    (hword : word.toList ++ rest = c :: cs ∨ word.toList ++ rest = '-' :: c :: cs) :
    c.isDigit = false := by
  simp only [literals, List.mem_cons, Prod.mk.injEq, List.not_mem_nil, or_false] at h
  rcases h with ⟨rfl, -⟩ | ⟨rfl, -⟩ | ⟨rfl, -⟩ | ⟨rfl, -⟩ | ⟨rfl, -⟩ | ⟨rfl, -⟩ <;>
    rcases hword with hword | hword <;> cases hword <;> rfl

theorem literal?_eq_none {c : Char} (h : c.isDigit = true)
    (hcs : cs = c :: rest ∨ cs = '-' :: c :: rest) : literal? cs literals = none := by
  cases hfound : literal? cs literals with
  | none => rfl
  | some found =>
    obtain ⟨v, others⟩ := found
    obtain ⟨word, hmem, hword⟩ := exists_word hfound
    rw [hword] at hcs
    rw [not_isDigit_of_word hmem hcs] at h
    cases h

end Words

end DiffReach.Json
