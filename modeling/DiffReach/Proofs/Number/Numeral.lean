import DiffReach.Number.Numeral
import DiffReach.Proofs.Number.Decimal
import DiffReach.Proofs.Text.Character

namespace DiffReach

namespace Numeral

open Text

inductive SpellsRun : List Char → List Nat → Prop
  | last {c : Char} {d : Nat} : digitValue? c = some d → SpellsRun [c] [d]
  | next {c : Char} {d : Nat} {cs : List Char} {ds : List Nat} : digitValue? c = some d →
      SpellsRun cs ds → SpellsRun (c :: cs) (d :: ds)
  | apart {c : Char} {d : Nat} {cs : List Char} {ds : List Nat} : digitValue? c = some d →
      SpellsRun cs ds → SpellsRun (c :: '_' :: cs) (d :: ds)

inductive SpellsSign : List Char → Bool → Prop
  | absent : SpellsSign [] false
  | plus : SpellsSign ['+'] false
  | minus : SpellsSign ['-'] true

/-- A text with a margin on either side and a sign before the rest. -/
def Frames (cs : List Char) (negative : Bool) (body : List Char) : Prop :=
  ∃ left sign right, cs = left ++ (sign ++ body ++ right) ∧ SpellsSign sign negative ∧
    (∀ c ∈ left, isMargin c = true) ∧ ∀ c ∈ right, isMargin c = true

def signed (negative : Bool) (n : Nat) : Int :=
  if negative then -n else n

def SpellsInteger (cs : List Char) (n : Int) : Prop :=
  ∃ negative body ds, Frames cs negative body ∧ SpellsRun body ds ∧ ds.length ≤ maxDigits ∧
    n = signed negative (Nat.ofDigits 10 ds.reverse)

def SpellsOptional (cs : List Char) (ds : List Nat) : Prop :=
  cs = [] ∧ ds = [] ∨ SpellsRun cs ds

inductive SpellsMantissa : List Char → List Nat → List Nat → Prop
  | whole {run : List Char} {ds : List Nat} : SpellsRun run ds → SpellsMantissa run ds []
  | point {left right : List Char} {ws fs : List Nat} : SpellsOptional left ws →
      SpellsOptional right fs → ws ++ fs ≠ [] → SpellsMantissa (left ++ '.' :: right) ws fs

inductive SpellsPower : List Char → Int → Prop
  | absent : SpellsPower [] 0
  | marked {mark : Char} {sign run : List Char} {negative : Bool} {ds : List Nat} :
      mark = 'e' ∨ mark = 'E' → SpellsSign sign negative → SpellsRun run ds →
        SpellsPower (mark :: (sign ++ run)) (signed negative (Nat.ofDigits 10 ds.reverse))

def SpellsDecimal (cs : List Char) (q : ℚ) : Prop :=
  ∃ mantissa power ws fs e, cs = mantissa ++ power ∧ SpellsMantissa mantissa ws fs ∧
    SpellsPower power e ∧ q = Binary64.decimal (ws ++ fs) (e - fs.length)

inductive SpellsReal (cs : List Char) : Binary64 → Prop
  | infinite {negative : Bool} {body : List Char} : Frames cs negative body →
      body.map Char.toLower ∈ ["inf".toList, "infinity".toList] → SpellsReal cs (.infinite negative)
  | nan {negative : Bool} {body : List Char} : Frames cs negative body →
      body.map Char.toLower = "nan".toList → SpellsReal cs .nan
  | decimal {negative : Bool} {body : List Char} {q : ℚ} {x : Binary64} : Frames cs negative body →
      SpellsDecimal body q → Binary64.Rounds negative q x → SpellsReal cs x

section Runs

variable {cs : List Char} {ds : List Nat}

theorem ne_underscore_of_digitValue? {c : Char} {d : Nat} (h : digitValue? c = some d) :
    c ≠ '_' :=
  ne_of_digitValue? h (by decide)

theorem SpellsRun.digitsFrom (h : SpellsRun cs ds) (afterDigit : Bool) :
    digitsFrom afterDigit cs = some ds := by
  induction h generalizing afterDigit with
  | last hc => simp [Numeral.digitsFrom, ne_underscore_of_digitValue? hc, hc]
  | next hc _ ih => simp [Numeral.digitsFrom, ne_underscore_of_digitValue? hc, hc, ih]
  | apart hc _ ih => simp [Numeral.digitsFrom, ne_underscore_of_digitValue? hc, hc, ih]

theorem spellsRun_of_digitsFrom (cs : List Char) (ds : List Nat) :
    (digitsFrom false cs = some ds → SpellsRun cs ds) ∧
    (digitsFrom true cs = some ds → cs = [] ∧ ds = [] ∨ SpellsRun cs ds ∨
      ∃ rest, cs = '_' :: rest ∧ SpellsRun rest ds) := by
  induction cs generalizing ds with
  | nil =>
    constructor
    · intro h
      cases h
    · intro h
      exact Or.inl ⟨rfl, (Option.some.inj h).symm⟩
  | cons c cs ih =>
    have hdigit {afterDigit : Bool} (hc : c ≠ '_') (h : digitsFrom afterDigit (c :: cs) = some ds) :
        SpellsRun (c :: cs) ds := by
      rw [digitsFrom, if_neg hc] at h
      split at h
      · rename_i d hd
        obtain ⟨rest, hrest, rfl⟩ := Option.map_eq_some_iff.mp h
        rcases (ih rest).2 hrest with ⟨rfl, rfl⟩ | hrun | ⟨others, rfl, hrun⟩
        · exact .last hd
        · exact .next hd hrun
        · exact .apart hd hrun
      · cases h
    by_cases hc : c = '_'
    · subst hc
      refine ⟨fun h => by simp [digitsFrom] at h, fun h => Or.inr (Or.inr ⟨cs, rfl, ?_⟩)⟩
      rw [digitsFrom, if_pos rfl, if_pos rfl] at h
      exact (ih ds).1 h
    · exact ⟨hdigit hc, fun h => Or.inr (Or.inl (hdigit hc h))⟩

theorem digits?_eq_some_iff : digits? cs = some ds ↔ SpellsRun cs ds :=
  ⟨(spellsRun_of_digitsFrom cs ds).1, fun h => h.digitsFrom false⟩

theorem SpellsRun.ne_nil (h : SpellsRun cs ds) : cs ≠ [] ∧ ds ≠ [] := by
  cases h <;> simp

theorem optionalDigits?_eq_some_iff : optionalDigits? cs = some ds ↔ SpellsOptional cs ds := by
  cases cs with
  | nil =>
    constructor
    · intro h
      exact Or.inl ⟨rfl, (Option.some.inj h).symm⟩
    · rintro (⟨-, rfl⟩ | h)
      · rfl
      · exact absurd rfl h.ne_nil.1
  | cons c cs =>
    rw [optionalDigits?, SpellsOptional]
    simp only [reduceCtorEq, false_and, false_or]
    exact digits?_eq_some_iff

theorem SpellsRun.mem (h : SpellsRun cs ds) {c : Char} (hc : c ∈ cs) :
    c = '_' ∨ ∃ d, digitValue? c = some d := by
  induction h with
  | last hd =>
    obtain rfl := List.mem_singleton.mp hc
    exact Or.inr ⟨_, hd⟩
  | next hd _ ih =>
    rcases List.mem_cons.mp hc with rfl | hc
    · exact Or.inr ⟨_, hd⟩
    · exact ih hc
  | apart hd _ ih =>
    rcases List.mem_cons.mp hc with rfl | hc
    · exact Or.inr ⟨_, hd⟩
    · rcases List.mem_cons.mp hc with rfl | hc
      · exact Or.inl rfl
      · exact ih hc

theorem SpellsRun.lt_ten (h : SpellsRun cs ds) : ∀ d ∈ ds, d < 10 := by
  induction h with
  | last hd => simpa using lt_ten_of_digitValue? hd
  | next hd _ ih => exact List.forall_mem_cons.mpr ⟨lt_ten_of_digitValue? hd, ih⟩
  | apart hd _ ih => exact List.forall_mem_cons.mpr ⟨lt_ten_of_digitValue? hd, ih⟩

theorem SpellsRun.head (h : SpellsRun cs ds) {c : Char} (hc : c ∈ cs.head?) :
    ∃ d, digitValue? c = some d := by
  cases h with
  | last hd => exact ⟨_, by rwa [← Option.mem_some_iff.mp hc]⟩
  | next hd => exact ⟨_, by rwa [← Option.mem_some_iff.mp hc]⟩
  | apart hd => exact ⟨_, by rwa [← Option.mem_some_iff.mp hc]⟩

end Runs

structure IsBare (body : List Char) : Prop where
  inner : ∀ c ∈ body, isMargin c = false
  start : ∀ c ∈ body.head?, c ≠ '+' ∧ c ≠ '-'

section Frames

variable {cs sign body : List Char} {negative : Bool}

theorem SpellsSign.inner (h : SpellsSign sign negative) : ∀ c ∈ sign, isMargin c = false := by
  cases h with
  | absent => exact List.forall_mem_nil _
  | plus => exact List.forall_mem_singleton.mpr (by decide)
  | minus => exact List.forall_mem_singleton.mpr (by decide)

theorem takeSign_append (h : SpellsSign sign negative)
    (hbody : ∀ c ∈ body.head?, c ≠ '+' ∧ c ≠ '-') : takeSign (sign ++ body) = (negative, body) := by
  cases h with
  | plus => rfl
  | minus => rfl
  | absent =>
    cases body with
    | nil => rfl
    | cons c body =>
      obtain ⟨hplus, hminus⟩ := hbody c rfl
      rw [List.nil_append, takeSign]
      · exact fun rest h => hminus (List.cons.inj h).1
      · exact fun rest h => hplus (List.cons.inj h).1

theorem exists_takeSign (cs : List Char) :
    ∃ sign, cs = sign ++ (takeSign cs).2 ∧ SpellsSign sign (takeSign cs).1 := by
  unfold takeSign
  split
  · exact ⟨['-'], rfl, .minus⟩
  · exact ⟨['+'], rfl, .plus⟩
  · exact ⟨[], rfl, .absent⟩

theorem frames_takeSign (cs : List Char) : Frames cs (takeSign (dropBoth isMargin cs)).1
    (takeSign (dropBoth isMargin cs)).2 := by
  obtain ⟨left, right, heq, hleft, hright⟩ := exists_dropBoth isMargin cs
  obtain ⟨sign, hcs, hsign⟩ := exists_takeSign (dropBoth isMargin cs)
  refine ⟨left, sign, right, ?_, hsign, hleft, hright⟩
  rw [← hcs]
  exact heq

theorem Frames.takeSign_dropBoth (h : Frames cs negative body) (hbare : IsBare body) :
    takeSign (dropBoth isMargin cs) = (negative, body) := by
  obtain ⟨left, sign, right, rfl, hsign, hleft, hright⟩ := h
  have hinner : ∀ c ∈ sign ++ body, isMargin c = false :=
    List.forall_mem_append.mpr ⟨hsign.inner, hbare.inner⟩
  rw [dropBoth_append hleft hright hinner, takeSign_append hsign hbare.start]

theorem SpellsRun.isBare {ds : List Nat} (h : SpellsRun body ds) : IsBare body := by
  constructor
  · intro c hc
    rcases h.mem hc with rfl | ⟨d, hd⟩
    · decide
    · exact isMargin_eq_false_of_digitValue? hd
  · intro c hc
    obtain ⟨d, hd⟩ := h.head hc
    exact ⟨ne_of_digitValue? hd (by decide), ne_of_digitValue? hd (by decide)⟩

end Frames

theorem natural_eq_ok_iff {ds : List Nat} {n : Nat} :
    natural ds = .ok n ↔ ds.length ≤ maxDigits ∧ n = Nat.ofDigits 10 ds.reverse := by
  rw [natural, ← Binary64.valueOf_eq_ofDigits]
  split
  · rename_i hlong
    simp [hlong]
  · rename_i hshort
    simp [not_lt.mp hshort, eq_comm]

section Integer

variable {s : String} {negative : Bool} {body : List Char}

theorem integer_of_digits {ds : List Nat}
    (hparts : takeSign (dropBoth isMargin s.toList) = (negative, body))
    (hds : digits? body = some ds) : integer s = (natural ds).map (signed negative) := by
  rw [integer, hparts]
  simp only [hds]
  cases natural ds <;> rfl

theorem integer_of_not_digits
    (hparts : takeSign (dropBoth isMargin s.toList) = (negative, body))
    (hds : digits? body = none) : integer s = .error .notNumeral := by
  rw [integer, hparts]
  simp only [hds]

theorem integer_eq_ok_iff {n : Int} : integer s = .ok n ↔ SpellsInteger s.toList n := by
  constructor
  · intro h
    have hframes := frames_takeSign s.toList
    cases hparts : takeSign (dropBoth isMargin s.toList) with
    | mk negative body =>
      rw [hparts] at hframes
      cases hds : digits? body with
      | none =>
        rw [integer_of_not_digits hparts hds] at h
        cases h
      | some ds =>
        rw [integer_of_digits hparts hds] at h
        cases hnatural : natural ds with
        | error fault =>
          rw [hnatural] at h
          cases h
        | ok m =>
          rw [hnatural] at h
          obtain ⟨hlength, rfl⟩ := natural_eq_ok_iff.mp hnatural
          exact ⟨negative, body, ds, hframes, digits?_eq_some_iff.mp hds, hlength,
            (Except.ok.inj h).symm⟩
  · rintro ⟨negative, body, ds, hbody, hrun, hlength, rfl⟩
    rw [integer_of_digits (hbody.takeSign_dropBoth hrun.isBare) (digits?_eq_some_iff.mpr hrun),
      natural_eq_ok_iff.mpr ⟨hlength, rfl⟩]
    rfl

theorem isUnreadable_of_integer {fault : Fault} (h : integer s = .error fault) :
    fault.isUnreadable = true := by
  cases hparts : takeSign (dropBoth isMargin s.toList) with
  | mk negative body =>
    cases hds : digits? body with
    | none =>
      rw [integer_of_not_digits hparts hds] at h
      obtain rfl := Except.error.inj h
      rfl
    | some ds =>
      rw [integer_of_digits hparts hds, natural] at h
      split at h
      · obtain rfl := Except.error.inj h
        rfl
      · cases h

end Integer

section Cut

variable {p : Char → Bool} {cs front rest : List Char} {c : Char}

theorem cut_of_not (h : ∀ c ∈ cs, p c = false) : cut p cs = (cs, none) := by
  have hnil : cs.dropWhile (fun c => !p c) = [] :=
    List.dropWhile_eq_nil_iff.mpr fun c hc => by simp [h c hc]
  rw [cut, hnil]

theorem cut_append (hfront : ∀ c ∈ front, p c = false) (hc : p c = true) (rest : List Char) :
    cut p (front ++ c :: rest) = (front, some rest) := by
  have hfront' : ∀ c ∈ front, (!p c) = true := fun c hc => by simp [hfront c hc]
  rw [cut, List.dropWhile_append_of_pos hfront', List.dropWhile_cons_of_neg (by simp [hc]),
    List.takeWhile_append_of_pos hfront', List.takeWhile_cons_of_neg (by simp [hc]),
    List.append_nil]

theorem exists_cut (p : Char → Bool) (cs : List Char) :
    (cut p cs = (cs, none) ∧ ∀ c ∈ cs, p c = false) ∨
    ∃ front c rest, cs = front ++ c :: rest ∧ p c = true ∧ (∀ c ∈ front, p c = false) ∧
      cut p cs = (front, some rest) := by
  cases hrest : cs.dropWhile (fun c => !p c) with
  | nil =>
    have hnone : ∀ c ∈ cs, p c = false := by simpa using List.dropWhile_eq_nil_iff.mp hrest
    exact Or.inl ⟨cut_of_not hnone, hnone⟩
  | cons c rest =>
    have hcs : cs = cs.takeWhile (fun c => !p c) ++ c :: rest := by
      rw [← hrest, List.takeWhile_append_dropWhile]
    have hc : p c = true := by
      have hhead := List.head?_dropWhile_not (fun c => !p c) cs
      rw [hrest] at hhead
      simpa using hhead
    have hfront : ∀ c ∈ cs.takeWhile (fun c => !p c), p c = false :=
      fun c hc => by simpa using List.mem_takeWhile_imp hc
    refine Or.inr ⟨_, c, rest, hcs, hc, hfront, ?_⟩
    have hcut := cut_append hfront hc rest
    rwa [← hcs] at hcut

end Cut

section Decimal

variable {cs mantissa power : List Char} {ws fs : List Nat} {e : Int}

def isMark (c : Char) : Bool :=
  c == 'e' || c == 'E'

theorem isMark_iff {c : Char} : isMark c = true ↔ c = 'e' ∨ c = 'E' := by
  simp [isMark]

theorem exponent?_some_iff {mark : Char} (hmark : mark = 'e' ∨ mark = 'E') {rest : List Char} :
    exponent? (some rest) = some e ↔ SpellsPower (mark :: rest) e := by
  constructor
  · intro h
    obtain ⟨sign, hrest, hsign⟩ := exists_takeSign rest
    rw [exponent?] at h
    generalize takeSign rest = parts at h hrest hsign
    obtain ⟨ds, hds, rfl⟩ := Option.map_eq_some_iff.mp h
    rw [hrest, Binary64.valueOf_eq_ofDigits]
    exact .marked hmark hsign (digits?_eq_some_iff.mp hds)
  · intro h
    cases h with
    | marked _ hsign hrun =>
      rw [exponent?, takeSign_append hsign hrun.isBare.start]
      simp only [digits?_eq_some_iff.mpr hrun, Binary64.valueOf_eq_ofDigits]
      rfl

theorem exponent?_cut_iff : (cut isMark cs).1 = mantissa ∧ exponent? (cut isMark cs).2 = some e ↔
    ∃ power, cs = mantissa ++ power ∧ (∀ c ∈ mantissa, isMark c = false) ∧ SpellsPower power e := by
  constructor
  · rintro ⟨rfl, hpower⟩
    rcases exists_cut isMark cs with ⟨hcut, hnone⟩ | ⟨front, c, rest, hcs, hc, hfront, hcut⟩
    · rw [hcut] at hpower ⊢
      obtain rfl := Option.some.inj hpower
      exact ⟨[], (List.append_nil cs).symm, hnone, .absent⟩
    · rw [hcut] at hpower ⊢
      exact ⟨c :: rest, hcs, hfront, (exponent?_some_iff (isMark_iff.mp hc)).mp hpower⟩
  · rintro ⟨power, rfl, hnone, hpower⟩
    cases hpower with
    | absent =>
      rw [List.append_nil, cut_of_not hnone]
      exact ⟨rfl, rfl⟩
    | marked hmark hsign hrun =>
      rw [cut_append hnone (isMark_iff.mpr hmark)]
      exact ⟨rfl, (exponent?_some_iff hmark).mpr (.marked hmark hsign hrun)⟩

theorem SpellsOptional.run (h : SpellsOptional cs ws) (hne : ws ≠ []) : SpellsRun cs ws := by
  rcases h with ⟨-, rfl⟩ | hrun
  · exact absurd rfl hne
  · exact hrun

theorem SpellsOptional.mem (h : SpellsOptional cs ws) {c : Char} (hc : c ∈ cs) :
    c = '_' ∨ ∃ d, digitValue? c = some d := by
  rcases h with ⟨rfl, -⟩ | hrun
  · cases hc
  · exact hrun.mem hc

theorem SpellsOptional.ne (h : SpellsOptional cs ws) {c mark : Char} (hc : c ∈ cs)
    (hmark : digitValue? mark = none) (hunderscore : '_' ≠ mark) : c ≠ mark := by
  rcases h.mem hc with rfl | ⟨d, hd⟩
  · exact hunderscore
  · exact ne_of_digitValue? hd hmark

theorem spellsMantissa_iff : SpellsMantissa mantissa ws fs ↔
    optionalDigits? (cut (· == '.') mantissa).1 = some ws ∧
      optionalDigits? ((cut (· == '.') mantissa).2.getD []) = some fs ∧ ws ++ fs ≠ [] := by
  constructor
  · intro h
    have hplain {run : List Char} {ds : List Nat} (hrun : SpellsOptional run ds) :
        ∀ c ∈ run, (c == '.') = false := by
      intro c hc
      simpa using hrun.ne hc (by decide) (by decide)
    cases h with
    | whole hrun =>
      rw [cut_of_not (hplain (Or.inr hrun))]
      exact ⟨optionalDigits?_eq_some_iff.mpr (Or.inr hrun), rfl, by simpa using hrun.ne_nil.2⟩
    | point hleft hright hne =>
      rw [cut_append (hplain hleft) (by decide)]
      exact ⟨optionalDigits?_eq_some_iff.mpr hleft, optionalDigits?_eq_some_iff.mpr hright, hne⟩
  · rintro ⟨hleft, hright, hne⟩
    rcases exists_cut (· == '.') mantissa with ⟨hcut, -⟩ | ⟨front, c, rest, rfl, hc, -, hcut⟩
    · rw [hcut] at hleft hright
      obtain rfl := Option.some.inj hright
      rw [List.append_nil] at hne
      exact .whole ((optionalDigits?_eq_some_iff.mp hleft).run hne)
    · rw [hcut] at hleft hright
      rw [beq_iff_eq.mp hc]
      exact .point (optionalDigits?_eq_some_iff.mp hleft)
        (optionalDigits?_eq_some_iff.mp hright) hne

theorem SpellsMantissa.mem (h : SpellsMantissa mantissa ws fs) {c : Char} (hc : c ∈ mantissa) :
    c = '_' ∨ c = '.' ∨ ∃ d, digitValue? c = some d := by
  cases h with
  | whole hrun =>
    rcases hrun.mem hc with hc | hc
    · exact Or.inl hc
    · exact Or.inr (Or.inr hc)
  | point hleft hright =>
    rcases List.mem_append.mp hc with hc | hc
    · rcases hleft.mem hc with hc | hc
      · exact Or.inl hc
      · exact Or.inr (Or.inr hc)
    · rcases List.mem_cons.mp hc with hc | hc
      · exact Or.inr (Or.inl hc)
      · rcases hright.mem hc with hc | hc
        · exact Or.inl hc
        · exact Or.inr (Or.inr hc)

theorem SpellsMantissa.not_isMark (h : SpellsMantissa mantissa ws fs) :
    ∀ c ∈ mantissa, isMark c = false := by
  intro c hc
  rcases h.mem hc with rfl | rfl | ⟨d, hd⟩
  · decide
  · decide
  · rw [← Bool.not_eq_true, isMark_iff, not_or]
    exact ⟨ne_of_digitValue? hd (by decide), ne_of_digitValue? hd (by decide)⟩

theorem SpellsMantissa.lt_ten (h : SpellsMantissa mantissa ws fs) : ∀ d ∈ ws ++ fs, d < 10 := by
  have hoptional {run : List Char} {ds : List Nat} (hrun : SpellsOptional run ds) :
      ∀ d ∈ ds, d < 10 := by
    rcases hrun with ⟨-, rfl⟩ | hrun
    · exact List.forall_mem_nil _
    · exact hrun.lt_ten
  cases h with
  | whole hrun =>
    rw [List.append_nil]
    exact hrun.lt_ten
  | point hleft hright => exact List.forall_mem_append.mpr ⟨hoptional hleft, hoptional hright⟩

theorem decimal?_eq_some_iff {negative : Bool} {x : Binary64} : decimal? negative cs = some x ↔
    ∃ q, SpellsDecimal cs q ∧ Binary64.Rounds negative q x := by
  have hparts : decimal? negative cs = some x ↔ ∃ ws fs e,
      SpellsMantissa (cut isMark cs).1 ws fs ∧ exponent? (cut isMark cs).2 = some e ∧
        Binary64.ofDecimal negative (ws ++ fs) (e - fs.length) = x := by
    have hmark : (fun c => c == 'e' || c == 'E') = isMark := rfl
    rw [decimal?, hmark]
    obtain ⟨mantissa, power⟩ := cut isMark cs
    simp only [spellsMantissa_iff]
    obtain ⟨whole, fraction⟩ := cut (· == '.') mantissa
    cases optionalDigits? whole with
    | none => simp
    | some ws =>
      cases optionalDigits? (fraction.getD []) with
      | none => simp
      | some fs =>
        cases exponent? power with
        | none => simp
        | some e => simp
  rw [hparts]
  constructor
  · rintro ⟨ws, fs, e, hmantissa, hpower, rfl⟩
    obtain ⟨power, hcs, -, hspells⟩ := exponent?_cut_iff.mp ⟨rfl, hpower⟩
    exact ⟨_, ⟨_, power, ws, fs, e, hcs, hmantissa, hspells, rfl⟩,
      Binary64.rounds_ofDecimal hmantissa.lt_ten _⟩
  · rintro ⟨q, ⟨mantissa, power, ws, fs, e, hcs, hmantissa, hspells, rfl⟩, hrounds⟩
    obtain ⟨hfront, hpower⟩ :=
      exponent?_cut_iff.mpr ⟨power, hcs, hmantissa.not_isMark, hspells⟩
    rw [← hfront] at hmantissa
    exact ⟨ws, fs, e, hmantissa, hpower,
      (Binary64.rounds_ofDecimal hmantissa.lt_ten _).unique hrounds⟩

theorem SpellsMantissa.exists_digit (h : SpellsMantissa mantissa ws fs) :
    ∃ c ∈ mantissa, ∃ d, digitValue? c = some d := by
  have hrun {run : List Char} {ds : List Nat} (hspells : SpellsRun run ds) :
      ∃ c ∈ run, ∃ d, digitValue? c = some d := by
    cases hspells <;> exact ⟨_, List.mem_cons_self, _, by assumption⟩
  cases h with
  | whole hspells => exact hrun hspells
  | point hleft hright hne =>
    rcases hleft with ⟨-, rfl⟩ | hleft
    · obtain ⟨c, hc, hd⟩ := hrun (hright.run (by simpa using hne))
      exact ⟨c, List.mem_append_right _ (List.mem_cons_of_mem _ hc), hd⟩
    · obtain ⟨c, hc, hd⟩ := hrun hleft
      exact ⟨c, List.mem_append_left _ hc, hd⟩

theorem SpellsMantissa.head (h : SpellsMantissa mantissa ws fs) (rest : List Char) :
    ∀ c ∈ (mantissa ++ rest).head?, c ≠ '+' ∧ c ≠ '-' := by
  cases mantissa with
  | nil =>
    obtain ⟨c, hc, -⟩ := h.exists_digit
    cases hc
  | cons first mantissa =>
    intro c hc
    obtain rfl := Option.some.inj hc
    rcases h.mem List.mem_cons_self with rfl | rfl | ⟨d, hd⟩
    · decide
    · decide
    · exact ⟨ne_of_digitValue? hd (by decide), ne_of_digitValue? hd (by decide)⟩

theorem SpellsPower.inner (h : SpellsPower power e) : ∀ c ∈ power, isMargin c = false := by
  cases h with
  | absent => exact List.forall_mem_nil _
  | marked hmark hsign hrun =>
    refine List.forall_mem_cons.mpr
      ⟨?_, List.forall_mem_append.mpr ⟨hsign.inner, hrun.isBare.inner⟩⟩
    rcases hmark with rfl | rfl <;> decide

theorem SpellsDecimal.isBare {q : ℚ} (h : SpellsDecimal cs q) : IsBare cs := by
  obtain ⟨mantissa, power, ws, fs, e, rfl, hmantissa, hpower, -⟩ := h
  refine ⟨List.forall_mem_append.mpr ⟨fun c hc => ?_, hpower.inner⟩, hmantissa.head power⟩
  rcases hmantissa.mem hc with rfl | rfl | ⟨d, hd⟩
  · decide
  · decide
  · exact isMargin_eq_false_of_digitValue? hd

end Decimal

section Words

variable {s : String} {body word : List Char} {negative : Bool}

def IsWord (word : List Char) : Prop :=
  ∀ l ∈ word, 97 ≤ l.toNat ∧ l.toNat ≤ 122

instance (word : List Char) : Decidable (IsWord word) :=
  List.decidableBAll _ word

theorem IsWord.bounds (hword : IsWord word) (h : body.map Char.toLower = word) {c : Char}
    (hc : c ∈ body) : 65 ≤ c.toNat ∧ c.toNat ≤ 122 := by
  have hlower : c.toLower ∈ word := h ▸ List.mem_map_of_mem hc
  obtain ⟨hlow, hhigh⟩ := hword c.toLower hlower
  rcases eq_or_add_eq_of_toLower (Eq.refl c.toLower) with heq | heq
  · rw [← heq] at hlow hhigh
    omega
  · omega

theorem IsWord.isBare (hword : IsWord word) (h : body.map Char.toLower = word) : IsBare body := by
  have hapart : ∀ range ∈ blankRanges, range.2 < 65 ∨ 122 < range.1 := by decide
  constructor
  · intro c hc
    have hbounds := hword.bounds h hc
    refine isMargin_eq_false fun range hrange => ?_
    have := hapart range hrange
    omega
  · intro c hc
    have hbounds := hword.bounds h (List.mem_of_head? hc)
    constructor
    · rintro rfl
      exact absurd hbounds (by decide)
    · rintro rfl
      exact absurd hbounds (by decide)

theorem IsWord.not_digit (hword : IsWord word) (h : body.map Char.toLower = word) {c : Char}
    (hc : c ∈ body) (d : Nat) : digitValue? c ≠ some d := by
  have hapart : ∀ start ∈ digitZeros, start + 10 ≤ 65 ∨ 122 < start := by decide
  intro hd
  obtain ⟨start, hstart, heq, hlt⟩ := exists_of_digitFrom hd
  have hbounds := hword.bounds h hc
  have := hapart start hstart
  omega

theorem isWordOf_iff : isWordOf word body = true ↔ body.map Char.toLower = word :=
  beq_iff_eq

theorem SpellsDecimal.not_isWordOf {q : ℚ} (h : SpellsDecimal body q) (hword : IsWord word) :
    isWordOf word body = false := by
  obtain ⟨mantissa, power, ws, fs, e, rfl, hmantissa, -, -⟩ := h
  obtain ⟨c, hc, d, hd⟩ := hmantissa.exists_digit
  rw [← Bool.not_eq_true, isWordOf_iff]
  exact fun hspelt => hword.not_digit hspelt (List.mem_append_left power hc) d hd

theorem isWord_inf : IsWord "inf".toList := by
  decide

theorem isWord_infinity : IsWord "infinity".toList := by
  decide

theorem isWord_nan : IsWord "nan".toList := by
  decide

theorem real?_of_parts (h : takeSign (dropBoth isMargin s.toList) = (negative, body)) :
    real? s = if isWordOf "inf".toList body || isWordOf "infinity".toList body then
        some (.infinite negative)
      else if isWordOf "nan".toList body then some .nan else decimal? negative body := by
  rw [real?, h]

theorem spellsReal_of_real? {x : Binary64} (h : real? s = some x) : SpellsReal s.toList x := by
  have hframes := frames_takeSign s.toList
  cases hparts : takeSign (dropBoth isMargin s.toList) with
  | mk negative body =>
    rw [hparts] at hframes
    rw [real?_of_parts hparts] at h
    split at h
    · rename_i hword
      obtain rfl := Option.some.inj h
      refine .infinite hframes ?_
      rw [Bool.or_eq_true, isWordOf_iff, isWordOf_iff] at hword
      simpa using hword
    · split at h
      · rename_i hword
        obtain rfl := Option.some.inj h
        exact .nan hframes (isWordOf_iff.mp hword)
      · obtain ⟨q, hdecimal, hrounds⟩ := decimal?_eq_some_iff.mp h
        exact .decimal hframes hdecimal hrounds

theorem SpellsReal.real? {x : Binary64} (h : SpellsReal s.toList x) : real? s = some x := by
  cases h with
  | infinite hframes hmem =>
    rw [List.mem_pair] at hmem
    rcases hmem with hword | hword
    · rw [real?_of_parts (hframes.takeSign_dropBoth (isWord_inf.isBare hword)),
        isWordOf_iff.mpr hword, Bool.true_or, if_pos rfl]
    · rw [real?_of_parts (hframes.takeSign_dropBoth (isWord_infinity.isBare hword)),
        isWordOf_iff.mpr hword, Bool.or_true, if_pos rfl]
  | nan hframes hword =>
    rw [real?_of_parts (hframes.takeSign_dropBoth (isWord_nan.isBare hword)), isWordOf, isWordOf,
      isWordOf, hword]
    rfl
  | decimal hframes hdecimal hrounds =>
    rw [real?_of_parts (hframes.takeSign_dropBoth hdecimal.isBare),
      hdecimal.not_isWordOf isWord_inf, hdecimal.not_isWordOf isWord_infinity,
      hdecimal.not_isWordOf isWord_nan]
    exact decimal?_eq_some_iff.mpr ⟨_, hdecimal, hrounds⟩

theorem real?_eq_some_iff {x : Binary64} : real? s = some x ↔ SpellsReal s.toList x :=
  ⟨spellsReal_of_real?, SpellsReal.real?⟩

end Words

end Numeral

end DiffReach
