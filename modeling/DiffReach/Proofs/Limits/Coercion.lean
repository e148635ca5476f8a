import DiffReach.Proofs.Limits
import DiffReach.Proofs.Limits.Override
import DiffReach.Proofs.Number.Numeral

namespace DiffReach

open Binary64 Numeral

namespace Value

inductive IsWhole : Value → Int → Prop
  | flag (b : Bool) : IsWhole (.bool b) b.toNat
  | int (n : Int) : IsWhole (.int n) n
  | float {x : Binary64} {q : ℚ} : x.toRat? = some q → IsWhole (.float x) (towardZero q)
  | text {s : String} {n : Int} : SpellsInteger s.toList n → IsWhole (.str s) n

inductive IsReal : Value → Binary64 → Prop
  | flag {b : Bool} {x : Binary64} : Rounds false b.toNat x → IsReal (.bool b) x
  | int {n : Int} {x : Binary64} : (n.natAbs : ℚ) < bound →
      Rounds (decide (n < 0)) n.natAbs x → IsReal (.int n) x
  | float (x : Binary64) : IsReal (.float x) x
  | text {s : String} {x : Binary64} : SpellsReal s.toList x → IsReal (.str s) x

variable {v : Value} {fault : Fault}

theorem toInt_eq_ok_iff {n : Int} : v.toInt = .ok n ↔ v.IsWhole n := by
  constructor
  · intro h
    cases v with
    | bool b =>
      obtain rfl := Except.ok.inj h
      cases b
      · exact .flag false
      · exact .flag true
    | int m =>
      obtain rfl := Except.ok.inj h
      exact .int m
    | float x =>
      cases x with
      | finite negative c e =>
        obtain rfl := Except.ok.inj h
        rw [truncate_eq rfl]
        exact .float rfl
      | _ => cases h
    | str s => exact .text (integer_eq_ok_iff.mp h)
    | _ => cases h
  · intro h
    cases h with
    | flag b => cases b <;> rfl
    | int => rfl
    | float hx =>
      rename_i x q
      cases x with
      | finite negative c e => exact congrArg Except.ok (truncate_eq hx)
      | _ => cases hx
    | text hs => exact integer_eq_ok_iff.mpr hs

theorem toInt_eq_error (h : v.toInt = .error fault) : fault.isUnreadable = true ∨
    fault = .unbounded ∧ ∃ negative, v = .float (.infinite negative) := by
  cases v with
  | float x =>
    cases x with
    | infinite negative =>
      obtain rfl := Except.error.inj h
      exact Or.inr ⟨rfl, negative, rfl⟩
    | nan =>
      obtain rfl := Except.error.inj h
      exact Or.inl rfl
    | finite => cases h
  | str s => exact Or.inl (isUnreadable_of_integer h)
  | bool => cases h
  | int => cases h
  | _ =>
    obtain rfl := Except.error.inj h
    exact Or.inl rfl

theorem ofIntAsFloat_eq_ok_iff {n : Int} {x : Binary64} : ofIntAsFloat n = .ok x ↔
    (n.natAbs : ℚ) < bound ∧ Rounds (decide (n < 0)) n.natAbs x := by
  rw [← ofInt?_eq_some_iff, ofIntAsFloat]
  cases ofInt? n <;> simp

theorem ofIntAsFloat_eq_error_iff {n : Int} : ofIntAsFloat n = .error fault ↔
    fault = .outOfRange ∧ bound ≤ n.natAbs := by
  rw [← ofInt?_eq_none_iff, ofIntAsFloat]
  cases ofInt? n <;> simp [eq_comm]

theorem ofIntAsFloat_flag_iff {b : Bool} {x : Binary64} :
    ofIntAsFloat (if b then 1 else 0) = .ok x ↔ Rounds false b.toNat x := by
  rw [ofIntAsFloat_eq_ok_iff]
  have hone := one_lt_bound
  cases b with
  | false => simpa using fun _ => by linarith
  | true => simpa using fun _ => hone

theorem toBinary64_eq_ok_iff {x : Binary64} : v.toBinary64 = .ok x ↔ v.IsReal x := by
  constructor
  · intro h
    cases v with
    | bool b => exact .flag (ofIntAsFloat_flag_iff.mp h)
    | int n =>
      obtain ⟨hless, hrounds⟩ := ofIntAsFloat_eq_ok_iff.mp h
      exact .int hless hrounds
    | float y =>
      obtain rfl := Except.ok.inj h
      exact .float y
    | str s =>
      cases hreal : real? s with
      | none => simp [toBinary64, hreal] at h
      | some y =>
        simp only [toBinary64, hreal] at h
        obtain rfl := Except.ok.inj h
        exact .text (real?_eq_some_iff.mp hreal)
    | _ => cases h
  · intro h
    cases h with
    | flag hrounds => exact ofIntAsFloat_flag_iff.mpr hrounds
    | int hless hrounds => exact ofIntAsFloat_eq_ok_iff.mpr ⟨hless, hrounds⟩
    | float => rfl
    | text hs => simp only [toBinary64, real?_eq_some_iff.mpr hs]

theorem toBinary64_eq_error (h : v.toBinary64 = .error fault) : fault.isUnreadable = true ∨
    fault = .outOfRange ∧ ∃ n, v = .int n ∧ bound ≤ n.natAbs := by
  cases v with
  | bool b =>
    obtain ⟨-, hmore⟩ := ofIntAsFloat_eq_error_iff.mp h
    have hone := one_lt_bound
    cases b with
    | false => exact absurd hmore (by simpa using by linarith)
    | true => exact absurd hmore (by simpa using hone)
  | int n =>
    obtain ⟨rfl, hmore⟩ := ofIntAsFloat_eq_error_iff.mp h
    exact Or.inr ⟨rfl, n, rfl, hmore⟩
  | float => cases h
  | str s =>
    cases hreal : real? s with
    | none =>
      simp only [toBinary64, hreal] at h
      obtain rfl := Except.error.inj h
      exact Or.inl rfl
    | some y => simp [toBinary64, hreal] at h
  | _ =>
    obtain rfl := Except.error.inj h
    exact Or.inl rfl

end Value

namespace Limits

def Key.Coerces (key : Key) (v : Value) : Amount → Prop
  | .whole n => key ≠ .requestTimeout ∧ v.IsWhole n
  | .real x => key = .requestTimeout ∧ v.IsReal x

inductive Key.Overflows : Key → Value → Fault → Prop
  | whole {key : Key} {negative : Bool} : key ≠ .requestTimeout →
      Overflows key (.float (.infinite negative)) .unbounded
  | real {n : Int} : bound ≤ n.natAbs → Overflows .requestTimeout (.int n) .outOfRange

def Amount.IsPositive : Amount → Prop
  | .whole n => 0 < n
  | .real x => x = .infinite false ∨ ∃ q, x.toRat? = some q ∧ 0 < q

theorem Amount.atMostZero_eq_false_iff {amount : Amount} :
    amount.atMostZero = false ↔ amount.IsPositive ∨ amount = .real .nan := by
  cases amount with
  | whole n => simp [Amount.atMostZero, Amount.IsPositive]
  | real x =>
    rw [Amount.atMostZero, Binary64.atMostZero_eq_false_iff, Amount.IsPositive, Amount.real.injEq,
      or_comm]

namespace Key

variable {key : Key} {v : Value} {fault : Fault}

theorem read_of_ne (h : key ≠ .requestTimeout) (v : Value) : key.read v = v.toInt.map .whole := by
  cases key with
  | requestTimeout => exact absurd rfl h
  | _ => rfl

theorem read_eq_ok_iff {amount : Amount} : key.read v = .ok amount ↔ key.Coerces v amount := by
  by_cases hkey : key = .requestTimeout
  · subst hkey
    have hread : Key.requestTimeout.read v = v.toBinary64.map .real := rfl
    rw [hread]
    cases amount with
    | whole n =>
      refine iff_of_false (fun h => ?_) fun h => h.1 rfl
      obtain ⟨x, -, hx⟩ := exists_of_map_eq_ok h
      cases hx
    | real x =>
      rw [Coerces, ← Value.toBinary64_eq_ok_iff]
      cases v.toBinary64 <;> simp [Except.map]
  · rw [read_of_ne hkey]
    cases amount with
    | whole n =>
      rw [Coerces, ← Value.toInt_eq_ok_iff]
      cases v.toInt <;> simp [Except.map, hkey]
    | real x =>
      refine iff_of_false (fun h => ?_) fun h => hkey h.1
      obtain ⟨n, -, hn⟩ := exists_of_map_eq_ok h
      cases hn

theorem overflows_iff : key.Overflows v fault ↔
    key.read v = .error fault ∧ fault.isUnreadable = false := by
  constructor
  · intro h
    cases h with
    | whole hkey => exact ⟨read_of_ne hkey _, rfl⟩
    | real hmore =>
      have herror := Value.ofIntAsFloat_eq_error_iff.mpr ⟨rfl, hmore⟩
      refine ⟨?_, rfl⟩
      change Except.map Amount.real (Value.ofIntAsFloat _) = _
      rw [herror]
      rfl
  · rintro ⟨hread, hfault⟩
    by_cases hkey : key = .requestTimeout
    · subst hkey
      cases hv : v.toBinary64 with
      | ok x =>
        simp [read, hv, Except.map] at hread
      | error other =>
        simp only [read, hv] at hread
        obtain rfl := Except.error.inj hread
        rcases Value.toBinary64_eq_error hv with hunreadable | ⟨rfl, n, rfl, hmore⟩
        · rw [hunreadable] at hfault
          cases hfault
        · exact .real hmore
    · rw [read_of_ne hkey] at hread
      cases hv : v.toInt with
      | ok n => simp [hv, Except.map] at hread
      | error other =>
        rw [hv] at hread
        obtain rfl := Except.error.inj hread
        rcases Value.toInt_eq_error hv with hunreadable | ⟨rfl, negative, rfl⟩
        · rw [hunreadable] at hfault
          cases hfault
        · exact .whole hkey

theorem stops_iff : key.Stops v ↔ ∃ fault, key.Overflows v fault := by
  simp only [Stops, overflows_iff]

theorem accepts_iff : key.Accepts v ↔
    ∃ amount, key.Coerces v amount ∧ (amount.IsPositive ∨ amount = .real .nan) := by
  simp only [Accepts, read_eq_ok_iff, Amount.atMostZero_eq_false_iff]

end Key

section Runs

variable {settings : Dict Value} {l : Limits} {network : Host.Network} {journal : Journal}

theorem exists_overflows_of_override {name : String} {v : Value} {fault : Fault}
    (h : l.override name v = .error fault) :
    ∃ key : Key, name = key.name ∧ key.Overflows v fault := by
  rw [override] at h
  split at h
  · cases h
  · rename_i key hkey
    refine ⟨key, Key.ofName?_eq_some_iff.mp hkey, Key.overflows_iff.mpr ?_⟩
    cases hread : key.read v with
    | ok amount =>
      simp only [hread] at h
      split at h <;> cases h
    | error other =>
      simp only [hread] at h
      split at h
      · cases h
      · rename_i hfault
        obtain rfl := Except.error.inj h
        exact ⟨rfl, by simpa using hfault⟩

theorem override_of_overflows {key : Key} {v : Value} {fault : Fault} (h : key.Overflows v fault)
    (l : Limits) : l.override key.name v = .error fault := by
  obtain ⟨hread, hfault⟩ := Key.overflows_iff.mp h
  rw [override, Key.ofName?_eq_some_iff.mpr rfl]
  simp [hread, hfault]

theorem run_overrideAll_of_error {name : String} {v : Value} {rest : Dict Value} {fault : Fault}
    (h : l.override name v = .error fault) :
    (overrideAll l ((name, v) :: rest)).run network journal = (.error (.fault fault), journal) := by
  rw [overrideAll, h]
  rfl

theorem exists_overflows_of_run {cause : Stop}
    (h : ((overrideAll l settings).run network journal).1 = .error cause) :
    ∃ (key : Key) (v : Value) (fault : Fault), (key.name, v) ∈ settings ∧ key.Overflows v fault ∧
      cause = .fault fault := by
  induction settings generalizing l journal with
  | nil => cases h
  | cons entry rest ih =>
    obtain ⟨name, v⟩ := entry
    cases hoverride : l.override name v with
    | ok result =>
      obtain ⟨middle, event⟩ := result
      rw [run_overrideAll_cons hoverride] at h
      obtain ⟨key, w, fault, hmem, hrest⟩ := ih h
      exact ⟨key, w, fault, List.mem_cons_of_mem _ hmem, hrest⟩
    | error fault =>
      rw [run_overrideAll_of_error hoverride] at h
      obtain ⟨key, rfl, hoverflows⟩ := exists_overflows_of_override hoverride
      exact ⟨key, v, fault, List.mem_cons_self, hoverflows, (Except.error.inj h).symm⟩

def isKnown (entry : String × Value) : Bool :=
  (Key.ofName? entry.1).isSome

theorem run_overrideAll_filter : (overrideAll l (settings.filter isKnown)).run network journal =
    (overrideAll l settings).run network journal := by
  induction settings generalizing l journal with
  | nil => rfl
  | cons entry rest ih =>
    obtain ⟨name, v⟩ := entry
    by_cases hknown : isKnown (name, v) = true
    · rw [List.filter_cons_of_pos hknown]
      cases hoverride : l.override name v with
      | ok result =>
        obtain ⟨middle, event⟩ := result
        rw [run_overrideAll_cons hoverride, run_overrideAll_cons hoverride, ih]
      | error fault => rw [run_overrideAll_of_error hoverride, run_overrideAll_of_error hoverride]
    · have hunknown : ∀ key : Key, name ≠ key.name := by
        intro key hname
        rw [isKnown, Key.ofName?_eq_some_iff.mpr hname] at hknown
        exact hknown rfl
      rw [List.filter_cons_of_neg hknown, run_overrideAll_cons (override_of_unknown hunknown l v),
        Option.toList_none, List.append_nil, ih]

end Runs

structure Key.Settles (key : Key) (setting : Option Value) (result : Value) : Prop where
  coerced : ∀ v amount, setting = some v → key.Coerces v amount → amount.IsPositive →
    result = amount.toValue
  nan : ∀ v, setting = some v → key.Coerces v (.real .nan) → result = .float .nan
  default : (∀ v amount, setting = some v → key.Coerces v amount →
    ¬ amount.IsPositive ∧ amount ≠ .real .nan) → result = ({} : Limits).get key
  positive : (∀ v, setting = some v → ¬ key.Coerces v (.real .nan)) →
    ∃ amount : Amount, result = amount.toValue ∧ amount.IsPositive

theorem exists_isPositive_default (key : Key) :
    ∃ amount : Amount, ({} : Limits).get key = amount.toValue ∧ amount.IsPositive := by
  by_cases hkey : key = .requestTimeout
  · subst hkey
    refine ⟨.real _, rfl, Or.inr ⟨_, rfl, ?_⟩⟩
    exact mul_pos (by norm_num) (two_zpow_pos _)
  · obtain ⟨n, hn, heq⟩ := positive_default.whole key hkey
    exact ⟨.whole n, heq, hn⟩

theorem Key.settles_of_follow {key : Key} {settings : Dict Value} {l : Limits}
    (h : Follow {} settings l) : key.Settles (settings.fetch key.name) (l.get key) := by
  have hkey := h key
  have htaken {v : Value} {amount : Amount} (hv : settings.fetch key.name = some v)
      (hcoerces : key.Coerces v amount) (hpositive : amount.IsPositive ∨ amount = .real .nan) :
      l.get key = amount.toValue := by
    rw [hkey, hv]
    exact Key.after_of_read (Key.read_eq_ok_iff.mpr hcoerces)
      (Amount.atMostZero_eq_false_iff.mpr hpositive) _
  have hleft (hnone : ∀ v, settings.fetch key.name = some v → ¬ key.Accepts v) :
      l.get key = ({} : Limits).get key := by
    rw [hkey]
    cases hv : settings.fetch key.name with
    | none => rfl
    | some v => exact Key.after_of_not_accepts (hnone v hv) _
  constructor
  · exact fun v amount hv hcoerces hpositive => htaken hv hcoerces (Or.inl hpositive)
  · exact fun v hv hcoerces => htaken hv hcoerces (Or.inr rfl)
  · intro hnone
    refine hleft fun v hv haccepts => ?_
    obtain ⟨amount, hcoerces, hpositive⟩ := Key.accepts_iff.mp haccepts
    obtain ⟨hnot, hnan⟩ := hnone v amount hv hcoerces
    exact hpositive.elim hnot hnan
  · intro hnan
    by_cases haccepts : ∃ v, settings.fetch key.name = some v ∧ key.Accepts v
    · obtain ⟨v, hv, haccepts⟩ := haccepts
      obtain ⟨amount, hcoerces, hpositive⟩ := Key.accepts_iff.mp haccepts
      refine ⟨amount, htaken hv hcoerces hpositive, hpositive.resolve_right ?_⟩
      rintro rfl
      exact hnan v hv hcoerces
    · obtain ⟨amount, hdefault, hpositive⟩ := exists_isPositive_default key
      refine ⟨amount, ?_, hpositive⟩
      rw [← hdefault]
      exact hleft fun v hv h => haccepts ⟨v, hv, h⟩

theorem ofSettings_coerces {settings : Dict Value} (hnames : settings.names.Nodup)
    (network : Host.Network) (journal : Journal) :
    ((∃ l, ((ofSettings settings).run network journal).1 = .ok l) ↔
      ∀ (key : Key) v fault, settings.fetch key.name = some v → ¬ key.Overflows v fault) ∧
    (∀ cause, ((ofSettings settings).run network journal).1 = .error cause →
      ∃ (key : Key) (v : Value) (fault : Fault), settings.fetch key.name = some v ∧
        key.Overflows v fault ∧ cause = .fault fault) ∧
    (∀ l, ((ofSettings settings).run network journal).1 = .ok l →
      ∀ key : Key, key.Settles (settings.fetch key.name) (l.get key)) ∧
    (ofSettings (settings.filter isKnown)).run network journal =
      (ofSettings settings).run network journal := by
  have hreadable : Readable settings ↔
      ∀ (key : Key) v fault, settings.fetch key.name = some v → ¬ key.Overflows v fault := by
    simp only [Readable, Key.stops_iff, not_exists]
    exact ⟨fun h key v fault hv => h key v hv fault, fun h key v hv fault => h key v fault hv⟩
  refine ⟨?_, fun cause h => ?_, fun l h key => ?_, run_overrideAll_filter⟩
  · rw [← hreadable]
    constructor
    · rintro ⟨l, h⟩
      exact readable_of_run h
    · intro h
      obtain ⟨l, later, hrun, -⟩ := run_overrideAll hnames h {} network journal
      exact ⟨l, congrArg Prod.fst hrun⟩
  · obtain ⟨key, v, fault, hmem, hoverflows, hcause⟩ := exists_overflows_of_run h
    exact ⟨key, v, fault, Dict.fetch_of_mem hnames hmem, hoverflows, hcause⟩
  · exact Key.settles_of_follow (follow_of_run hnames h)

def mixedSettings : Dict Value := [
  ("max_findings", .str " 1_0 "),
  ("request_timeout", .str "+2.5e0"),
  ("fetch_workers", .float (.finite true 7 (-1))),
  ("max_annotations", .float .nan),
  ("colour", .float (.infinite false))]

theorem not_overflows_mixedSettings (key : Key) (v : Value) (fault : Fault)
    (hv : mixedSettings.fetch key.name = some v) : ¬ key.Overflows v fault := by
  intro hoverflows
  cases hoverflows with
  | whole hkey => cases key <;> cases hv
  | real => cases hv

def unreached : Host.Network := fun _ _ =>
  .breakdown .connection "unreached"

theorem ofSettings_coerces_mixed : ∃ l,
    ((ofSettings mixedSettings).run unreached ⟨[], []⟩).1 = .ok l ∧ l.get .maxFindings = .int 10 ∧
    l.get .requestTimeout = .float (.finite false 5629499534213120 (-51)) ∧
    l.get .fetchWorkers = .int 8 ∧ l.get .maxAnnotations = .int 50 := by
  have hnames : mixedSettings.names.Nodup := by decide
  obtain ⟨hok, -, hsettles, -⟩ := ofSettings_coerces hnames unreached ⟨[], []⟩
  obtain ⟨l, hl⟩ := hok.mpr not_overflows_mixedSettings
  refine ⟨l, hl, ?_, ?_, ?_, ?_⟩
  · have hten : Numeral.integer " 1_0 " = .ok 10 := by decide +kernel
    exact (hsettles l hl .maxFindings).coerced _ (.whole 10) rfl
      ⟨by decide, .text (integer_eq_ok_iff.mp hten)⟩ (by norm_num [Amount.IsPositive])
  · have hfloat : Numeral.real? "+2.5e0" = some (.finite false 5629499534213120 (-51)) := by
      decide +kernel
    exact (hsettles l hl .requestTimeout).coerced _ (.real _) rfl
      ⟨rfl, .text (real?_eq_some_iff.mp hfloat)⟩
      (Or.inr ⟨_, rfl, mul_pos (by norm_num) (two_zpow_pos _)⟩)
  · refine (hsettles l hl .fetchWorkers).default fun v amount hv hcoerces => ?_
    obtain rfl := Option.some.inj hv
    have hread : Key.fetchWorkers.read (.float (.finite true 7 (-1))) = .ok (.whole (-3)) := rfl
    rw [← Key.read_eq_ok_iff, hread] at hcoerces
    obtain rfl := Except.ok.inj hcoerces
    exact ⟨by simp [Amount.IsPositive], by simp⟩
  · refine (hsettles l hl .maxAnnotations).default fun v amount hv hcoerces => ?_
    obtain rfl := Option.some.inj hv
    rw [← Key.read_eq_ok_iff] at hcoerces
    cases hcoerces

theorem overflows_ten_pow {k : Nat} (h : 400 ≤ k) :
    Key.requestTimeout.Overflows (.int (10 ^ k)) .outOfRange := by
  refine .real ?_
  have hten : Int.natAbs 10 = 10 := rfl
  rw [Int.natAbs_pow, hten, Nat.cast_pow, Nat.cast_ofNat, ← zpow_natCast]
  exact bound_le_ten_zpow.trans (zpow_le_zpow_right₀ (by norm_num) (by exact_mod_cast h))

def vastSeconds : Int := 10 ^ 400

/-- An infinite count, an integer beyond all floats, and a timeout that is no number. -/
theorem ofSettings_beyond :
    ((ofSettings [("max_findings", .float (.infinite false))]).run unreached ⟨[], []⟩).1 =
      .error (.fault .unbounded) ∧
    ((ofSettings [("request_timeout", .int vastSeconds)]).run unreached ⟨[], []⟩).1 =
      .error (.fault .outOfRange) ∧
    ∃ l, ((ofSettings [("request_timeout", .float .nan)]).run unreached ⟨[], []⟩).1 = .ok l ∧
      l.requestTimeout = .float .nan ∧ ¬ (Amount.real .nan).IsPositive := by
  have hstop (key : Key) {v : Value} {fault : Fault} (h : key.Overflows v fault) :
      ((ofSettings [(key.name, v)]).run unreached ⟨[], []⟩).1 = .error (.fault fault) := by
    rw [ofSettings, run_overrideAll_of_error (override_of_overflows h {})]
  have hcount : Key.maxFindings.Overflows (.float (.infinite false)) .unbounded :=
    .whole (by decide)
  have hseconds : Key.requestTimeout.Overflows (.int vastSeconds) .outOfRange :=
    overflows_ten_pow le_rfl
  have hnan : Key.requestTimeout.Accepts (.float .nan) := ⟨.real .nan, rfl, rfl⟩
  have hvast := hstop _ hseconds
  have hpassed : (ofSettings [("request_timeout", .float .nan)]).run unreached ⟨[], []⟩ = _ :=
    run_overrideAll_cons (override_of_accepts hnan {}) unreached ⟨[], []⟩
  refine ⟨hstop _ hcount, hvast, _, congrArg Prod.fst hpassed, rfl, ?_⟩
  simp [Amount.IsPositive, toRat?]

end Limits

end DiffReach
