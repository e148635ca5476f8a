import DiffReach.Number.Binary64
import Mathlib.Algebra.Order.Field.Power
import Mathlib.Data.Rat.Floor
import Mathlib.Tactic.FieldSimp
import Mathlib.Tactic.GCongr
import Mathlib.Tactic.Linarith
import Mathlib.Tactic.NormNum
import Mathlib.Tactic.Positivity
import Mathlib.Tactic.Ring

namespace DiffReach.Binary64

def magnitude (coefficient : Nat) (exponent : Int) : ℚ :=
  coefficient * 2 ^ exponent

structure IsForm (coefficient : Nat) (exponent : Int) : Prop where
  fits : coefficient < 2 ^ 53
  least : -1074 ≤ exponent
  greatest : exponent ≤ 971
  full : 2 ^ 52 ≤ coefficient ∨ exponent = -1074

/-- Half a step beyond the greatest finite number. -/
def bound : ℚ :=
  (2 ^ 53 - 1 / 2) * 2 ^ (971 : Int)

/-- No finite number is nearer, and one that is as near leaves the even coefficient to this one. -/
structure IsNearest (q : ℚ) (coefficient : Nat) (exponent : Int) : Prop where
  nearest : ∀ c e, IsForm c e → |q - magnitude coefficient exponent| ≤ |q - magnitude c e|
  even : ∀ c e, IsForm c e → magnitude c e ≠ magnitude coefficient exponent →
    |q - magnitude coefficient exponent| = |q - magnitude c e| → coefficient % 2 = 0

inductive Rounds (negative : Bool) (q : ℚ) : Binary64 → Prop
  | finite {coefficient : Nat} {exponent : Int} : q < bound → IsForm coefficient exponent →
      IsNearest q coefficient exponent → Rounds negative q (.finite negative coefficient exponent)
  | infinite : bound ≤ q → Rounds negative q (.infinite negative)

theorem two_zpow_pos (e : Int) : (0 : ℚ) < 2 ^ e :=
  zpow_pos (by norm_num) e

theorem two_zpow_le {e e' : Int} (h : e ≤ e') : (2 : ℚ) ^ e ≤ 2 ^ e' :=
  zpow_le_zpow_right₀ (by norm_num) h

section Quotients

variable {base n d : Nat}

theorem scale_pos (hb : 0 < base) (hd : 0 < d) (power : Int) :
    0 < (scale base power (n, d)).2 := by
  rw [scale]
  split
  · exact hd
  · exact Nat.mul_pos hd (Nat.pow_pos hb)

theorem scale_ratio (base : Nat) (power : Int) :
    ((scale base power (n, d)).1 : ℚ) / (scale base power (n, d)).2 =
      n / d * (base : ℚ) ^ power := by
  rw [scale]
  split
  · rename_i hpower
    obtain ⟨k, rfl⟩ := Int.eq_ofNat_of_zero_le hpower
    rw [Int.toNat_natCast, zpow_natCast]
    push_cast [Nat.pow_eq]
    ring
  · rename_i hpower
    obtain ⟨k, rfl⟩ := Int.eq_negSucc_of_lt_zero (Int.not_le.mp hpower)
    rw [Int.natAbs_negSucc, zpow_negSucc]
    push_cast [Nat.pow_eq]
    rw [← div_div, div_eq_mul_inv (n / d : ℚ)]

theorem ratio_bounds (hn : 0 < n) (hd : 0 < d) :
    (2 : ℚ) ^ ((n.log2 : Int) - d.log2 - 1) ≤ n / d ∧
      (n : ℚ) / d < 2 ^ ((n.log2 : Int) - d.log2 + 1) := by
  have hd' : (0 : ℚ) < d := by exact_mod_cast hd
  have htwo : (2 : ℚ) ≠ 0 := by norm_num
  have hn1 : (2 : ℚ) ^ n.log2 ≤ n := by exact_mod_cast Nat.log2_self_le hn.ne'
  have hn2 : (n : ℚ) < 2 ^ (n.log2 + 1) := by exact_mod_cast Nat.lt_log2_self
  have hd1 : (2 : ℚ) ^ d.log2 ≤ d := by exact_mod_cast Nat.log2_self_le hd.ne'
  have hd2 : (d : ℚ) < 2 ^ (d.log2 + 1) := by exact_mod_cast Nat.lt_log2_self
  constructor
  · have heq : (2 : ℚ) ^ ((n.log2 : Int) - d.log2 - 1) = 2 ^ n.log2 / 2 ^ (d.log2 + 1) := by
      rw [sub_sub, zpow_sub₀ htwo, zpow_natCast, ← zpow_natCast 2 (d.log2 + 1)]
      push_cast
      rfl
    rw [heq]
    gcongr
  · have heq : (2 : ℚ) ^ ((n.log2 : Int) - d.log2 + 1) = 2 ^ (n.log2 + 1) / 2 ^ d.log2 := by
      rw [sub_add_eq_add_sub, zpow_sub₀ htwo, zpow_natCast, ← zpow_natCast 2 (n.log2 + 1)]
      push_cast
      rfl
    rw [heq]
    gcongr

theorem scale_le_iff (hd : 0 < d) (e : Int) :
    (scale 2 (-e) (n, d)).2 ≤ (scale 2 (-e) (n, d)).1 ↔ (2 : ℚ) ^ e ≤ n / d := by
  have hpos : (0 : ℚ) < (scale 2 (-e) (n, d)).2 := by
    exact_mod_cast scale_pos (n := n) two_pos hd (-e)
  rw [← Nat.cast_le (α := ℚ), ← one_le_div hpos, scale_ratio, Nat.cast_ofNat, zpow_neg,
    ← div_eq_mul_inv, one_le_div (two_zpow_pos e)]

theorem floorLog2_spec (hn : 0 < n) (hd : 0 < d) :
    (2 : ℚ) ^ floorLog2 n d ≤ n / d ∧ (n : ℚ) / d < 2 ^ (floorLog2 n d + 1) := by
  obtain ⟨hlow, hhigh⟩ := ratio_bounds hn hd
  have heq : floorLog2 n d = if (scale 2 (-((n.log2 : Int) - d.log2)) (n, d)).2 ≤
      (scale 2 (-((n.log2 : Int) - d.log2)) (n, d)).1 then (n.log2 : Int) - d.log2
        else (n.log2 : Int) - d.log2 - 1 := rfl
  rw [heq]
  by_cases hguess : (2 : ℚ) ^ ((n.log2 : Int) - d.log2) ≤ n / d
  · rw [if_pos ((scale_le_iff hd _).mpr hguess)]
    exact ⟨hguess, hhigh⟩
  · rw [if_neg (mt (scale_le_iff hd _).mp hguess), sub_add_cancel]
    exact ⟨hlow, lt_of_not_ge hguess⟩

theorem div_eq_div_add_mod (n : Nat) (hd : 0 < d) :
    (n : ℚ) / d = (n / d : Nat) + (n % d : Nat) / d := by
  have hd' : (d : ℚ) ≠ 0 := by positivity
  rw [div_eq_iff hd', add_mul, div_mul_cancel₀ _ hd']
  exact_mod_cast (Nat.div_add_mod' n d).symm

theorem roundDiv_spec (n : Nat) (hd : 0 < d) : |(n : ℚ) / d - roundDiv n d| ≤ 1 / 2 ∧
    (|(n : ℚ) / d - roundDiv n d| = 1 / 2 → roundDiv n d % 2 = 0) := by
  have hd' : (0 : ℚ) < d := by exact_mod_cast hd
  rw [div_eq_div_add_mod n hd, roundDiv]
  have hrest : (0 : ℚ) ≤ (n % d : Nat) / d := by positivity
  have hbelow : ((n % d : Nat) : ℚ) / d < 1 := by
    rw [div_lt_one hd']
    exact_mod_cast Nat.mod_lt n hd
  have hhalf : 2 * (n % d) < d ↔ ((n % d : Nat) : ℚ) / d < 1 / 2 := by
    rw [div_lt_iff₀ hd', ← Nat.cast_lt (α := ℚ)]
    push_cast
    constructor <;> intro h <;> linarith
  have hover : d < 2 * (n % d) ↔ 1 / 2 < ((n % d : Nat) : ℚ) / d := by
    rw [lt_div_iff₀ hd', ← Nat.cast_lt (α := ℚ)]
    push_cast
    constructor <;> intro h <;> linarith
  split
  · rename_i hless
    have hless' := hhalf.mp hless
    rw [add_sub_cancel_left, abs_of_nonneg hrest]
    exact ⟨hless'.le, fun h => absurd h hless'.ne⟩
  · rename_i hless
    split
    · rename_i hmore
      have hmore' := hover.mp hmore
      rw [Nat.cast_add, Nat.cast_one, add_sub_add_left_eq_sub, abs_of_neg (by linarith)]
      exact ⟨by linarith, fun h => by linarith⟩
    · rename_i hmore
      have heq : ((n % d : Nat) : ℚ) / d = 1 / 2 :=
        le_antisymm (not_lt.mp (mt hover.mpr hmore)) (not_lt.mp (mt hhalf.mpr hless))
      rw [heq]
      split
      · rename_i heven
        rw [add_sub_cancel_left, abs_of_pos (by norm_num)]
        exact ⟨le_rfl, fun _ => heven⟩
      · rename_i hodd
        rw [Nat.cast_add, Nat.cast_one, add_sub_add_left_eq_sub]
        exact ⟨by norm_num, fun _ => by omega⟩

end Quotients

theorem abs_sub_le_of_half {t : ℚ} {c : Int} (h : |t - c| ≤ 1 / 2) (k : Int) :
    |t - c| ≤ |t - k| ∧ (k ≠ c → |t - c| = |t - k| → |t - c| = 1 / 2) := by
  by_cases hk : k = c
  · subst hk
    exact ⟨le_rfl, fun h => absurd rfl h⟩
  · have hstep : (1 : ℚ) ≤ |(k : ℚ) - c| := by
      exact_mod_cast Int.one_le_abs (sub_ne_zero.mpr hk)
    have htriangle : |(k : ℚ) - c| ≤ |t - c| + |t - k| := by
      rw [abs_sub_comm t k]
      calc |(k : ℚ) - c| = |(t - c) + (k - t)| := by ring_nf
        _ ≤ |t - c| + |k - t| := abs_add_le _ _
    exact ⟨by linarith, fun _ _ => by linarith⟩

section Scaled

variable {q : ℚ} {c c' : Nat} {e e' : Int}

theorem magnitude_of_le (c : Nat) (h : e ≤ e') :
    magnitude c e' = ((c * 2 ^ (e' - e).toNat : Nat) : Int) * 2 ^ e := by
  obtain ⟨k, rfl⟩ := Int.le.dest h
  rw [magnitude, add_sub_cancel_left, Int.toNat_natCast, zpow_add₀ (by norm_num), zpow_natCast]
  push_cast
  ring

theorem abs_sub_mul_zpow (q x : ℚ) (e : Int) :
    |q - x * 2 ^ e| = |q / 2 ^ e - x| * 2 ^ e := by
  have hpos := two_zpow_pos e
  rw [← abs_of_pos hpos, ← abs_mul, abs_of_pos hpos]
  congr 1
  field_simp

theorem IsForm.magnitude_lt (h : IsForm c' e') (hlt : e' < e) :
    magnitude c' e' < 2 ^ 52 * 2 ^ e := by
  have hfits : (c' : ℚ) < 2 ^ 53 := by exact_mod_cast h.fits
  have hstep : (2 : ℚ) ^ e' ≤ 2 ^ (e - 1) := two_zpow_le (by omega)
  rw [zpow_sub_one₀ (by norm_num)] at hstep
  have hfirst : magnitude c' e' < 2 ^ 53 * 2 ^ e' :=
    mul_lt_mul_of_pos_right hfits (two_zpow_pos e')
  linarith

theorem nearest_of_coarser (hclose : |q / 2 ^ e - c| ≤ 1 / 2)
    (heven : |q / 2 ^ e - c| = 1 / 2 → c % 2 = 0) (hle : e ≤ e') :
    |q - magnitude c e| ≤ |q - magnitude c' e'| ∧ (magnitude c' e' ≠ magnitude c e →
      |q - magnitude c e| = |q - magnitude c' e'| → c % 2 = 0) := by
  have hpos := two_zpow_pos e
  -- what has no smaller step is a multiple of this one
  rw [magnitude_of_le c' hle, magnitude, abs_sub_mul_zpow, abs_sub_mul_zpow]
  obtain ⟨hnear, htie⟩ :=
    abs_sub_le_of_half (c := c) (by exact_mod_cast hclose) (c' * 2 ^ (e' - e).toNat : Nat)
  rw [Int.cast_natCast] at hnear htie
  refine ⟨mul_le_mul_of_nonneg_right hnear hpos.le, fun hne heq => heven (htie ?_ ?_)⟩
  · intro hsame
    exact hne (by rw [hsame, Int.cast_natCast])
  · exact mul_right_cancel₀ hpos.ne' heq

theorem nearest_of_finer (hclose : |q / 2 ^ e - c| ≤ 1 / 2) (hfull : 2 ^ 52 ≤ q / 2 ^ e)
    (h : IsForm c' e') (hlt : e' < e) : |q - magnitude c e| < |q - magnitude c' e'| := by
  have hpos := two_zpow_pos e
  -- what has a smaller step stays below the least value of this one
  have hsmall := h.magnitude_lt hlt
  have hq : 2 ^ 52 * 2 ^ e ≤ q := (le_div_iff₀ hpos).mp hfull
  have hnear : |q / 2 ^ e - c| ≤ q / 2 ^ e - 2 ^ 52 := by
    have hleast := (abs_sub_le_of_half (c := c) (by exact_mod_cast hclose) (2 ^ 52)).1
    rw [Int.cast_pow, Int.cast_ofNat] at hleast
    rwa [abs_of_nonneg (sub_nonneg.mpr hfull)] at hleast
  have hscaled : (q / 2 ^ e - 2 ^ 52) * 2 ^ e = q - 2 ^ 52 * 2 ^ e := by
    rw [sub_mul, div_mul_cancel₀ _ hpos.ne']
  calc |q - magnitude c e| = |q / 2 ^ e - c| * 2 ^ e := abs_sub_mul_zpow q c e
    _ ≤ (q / 2 ^ e - 2 ^ 52) * 2 ^ e := mul_le_mul_of_nonneg_right hnear hpos.le
    _ < q - magnitude c' e' := by rw [hscaled]; linarith
    _ ≤ |q - magnitude c' e'| := le_abs_self _

theorem isNearest_of_scaled (hclose : |q / 2 ^ e - c| ≤ 1 / 2)
    (heven : |q / 2 ^ e - c| = 1 / 2 → c % 2 = 0) (hfine : 2 ^ 52 ≤ q / 2 ^ e ∨ e = -1074) :
    IsNearest q c e := by
  have hfinest {c' : Nat} {e' : Int} (h : IsForm c' e') (hlt : e' < e) :
      |q - magnitude c e| < |q - magnitude c' e'| := by
    refine nearest_of_finer hclose (hfine.resolve_right fun hleast => ?_) h hlt
    have := h.least
    omega
  constructor
  · intro c' e' h
    rcases le_or_gt e e' with hle | hlt
    · exact (nearest_of_coarser hclose heven hle).1
    · exact (hfinest h hlt).le
  · intro c' e' h hne heq
    rcases le_or_gt e e' with hle | hlt
    · exact (nearest_of_coarser hclose heven hle).2 hne heq
    · exact absurd heq (hfinest h hlt).ne

end Scaled

theorem isNearest_zero {q : ℚ} (h0 : 0 ≤ q) (hsmall : 2 * q ≤ 2 ^ (-1074 : Int)) :
    IsNearest q 0 (-1074) := by
  refine isNearest_of_scaled ?_ (fun _ => rfl) (Or.inr rfl)
  have hpos := two_zpow_pos (-1074)
  rw [Nat.cast_zero, sub_zero, abs_of_nonneg (by positivity), div_le_iff₀ hpos]
  linarith

section Settle

variable {q : ℚ} {c : Nat} {e : Int}

theorem two_mul_leastFull : 2 * leastFull = 2 ^ 53 := by
  decide

theorem IsNearest.carry (h : IsNearest q (2 * leastFull) e) : IsNearest q leastFull (e + 1) := by
  have heq : magnitude leastFull (e + 1) = magnitude (2 * leastFull) e := by
    rw [magnitude, magnitude, zpow_add_one₀ (by norm_num)]
    push_cast
    ring
  refine ⟨fun c' e' hform => ?_, fun _ _ _ _ _ => by decide⟩
  rw [heq]
  exact h.nearest c' e' hform

theorem bound_le (he : 971 ≤ e) (h : 2 ^ 53 - 1 / 2 ≤ q / 2 ^ e) : bound ≤ q := by
  have hstep := two_zpow_le he
  have hq := (le_div_iff₀ (two_zpow_pos e)).mp h
  rw [bound]
  linarith

theorem lt_bound (he : e ≤ 971) (h : q / 2 ^ e < 2 ^ 53 - 1 / 2) : q < bound := by
  have hstep := two_zpow_le he
  have hq := (div_lt_iff₀ (two_zpow_pos e)).mp h
  rw [bound]
  linarith

theorem le_of_scaled (hclose : |q / 2 ^ e - c| ≤ 1 / 2) (hfits : q / 2 ^ e < 2 ^ 53) :
    c ≤ 2 * leastFull := by
  have hc : (c : ℚ) < (2 ^ 53 + 1 : Nat) := by
    have := (abs_le.mp hclose).1
    push_cast
    linarith
  have := Nat.cast_lt.mp hc
  rw [two_mul_leastFull]
  omega

theorem isForm_of_scaled (hclose : |q / 2 ^ e - c| ≤ 1 / 2)
    (hfine : 2 ^ 52 ≤ q / 2 ^ e ∨ e = -1074) (hleast : -1074 ≤ e) (hgreatest : e ≤ 971)
    (hc : c < 2 ^ 53) : IsForm c e := by
  refine ⟨hc, hleast, hgreatest, hfine.imp_left fun hfull => ?_⟩
  have hc' : ((2 ^ 52 : Nat) : ℚ) < (c + 1 : Nat) := by
    have := (abs_le.mp hclose).2
    push_cast
    linarith
  have := Nat.cast_lt.mp hc'
  omega

theorem scaled_lt (hclose : |q / 2 ^ e - c| ≤ 1 / 2)
    (heven : |q / 2 ^ e - c| = 1 / 2 → c % 2 = 0) (hc : c < 2 ^ 53) :
    q / 2 ^ e < 2 ^ 53 - 1 / 2 := by
  have hmost : (c : ℚ) ≤ 2 ^ 53 - 1 := by
    have hnat : c + 1 ≤ 2 ^ 53 := hc
    have hcast : ((c + 1 : Nat) : ℚ) ≤ (2 ^ 53 : Nat) := Nat.cast_le.mpr hnat
    push_cast at hcast
    linarith
  have habove := (abs_le.mp hclose).2
  refine lt_of_le_of_ne (by linarith) fun heq => ?_
  -- at the bound itself the greatest coefficient is as near as the next one, but it is odd
  have hlast : (c : ℚ) = 2 ^ 53 - 1 := by linarith
  have hodd : c = 2 ^ 53 - 1 := by
    have hcast : ((c + 1 : Nat) : ℚ) = (2 ^ 53 : Nat) := by
      push_cast
      linarith
    have := Nat.cast_inj.mp hcast
    omega
  have := heven (by rw [heq, hlast]; norm_num)
  omega

theorem rounds_settle {negative : Bool} (hclose : |q / 2 ^ e - c| ≤ 1 / 2)
    (heven : |q / 2 ^ e - c| = 1 / 2 → c % 2 = 0) (hfine : 2 ^ 52 ≤ q / 2 ^ e ∨ e = -1074)
    (hfits : q / 2 ^ e < 2 ^ 53) (hleast : -1074 ≤ e) :
    Rounds negative q (settle negative c e) := by
  have hnearest := isNearest_of_scaled hclose heven hfine
  rw [settle]
  split
  · rename_i hc
    subst hc
    have hcast : ((2 * leastFull : Nat) : ℚ) = 2 ^ 53 := by
      rw [two_mul_leastFull]
      norm_num
    rw [hcast] at hclose
    split
    · rename_i hbeyond
      refine .infinite (bound_le (e := e) (by omega) ?_)
      have := (abs_le.mp hclose).1
      linarith
    · rename_i hwithin
      refine .finite (lt_bound (e := e + 1) (by omega) ?_)
        ⟨by decide, by omega, by omega, Or.inl (by decide)⟩ hnearest.carry
      rw [zpow_add_one₀ (by norm_num), ← div_div]
      linarith
  · rename_i hc
    have hless : c < 2 ^ 53 := by
      rw [← two_mul_leastFull]
      exact lt_of_le_of_ne (le_of_scaled hclose hfits) hc
    split
    · rename_i hbeyond
      have hfull := hfine.resolve_right (by omega)
      refine .infinite (bound_le (e := e - 1) (by omega) ?_)
      rw [zpow_sub_one₀ (by norm_num), div_mul_eq_div_div, div_inv_eq_mul]
      linarith
    · rename_i hwithin
      exact .finite (lt_bound (not_lt.mp hwithin) (scaled_lt hclose heven hless))
        (isForm_of_scaled hclose hfine hleast (not_lt.mp hwithin) hless) hnearest

end Settle

theorem rounds_ofRatio (negative : Bool) (n : Nat) {d : Nat} (hd : 0 < d) :
    Rounds negative (n / d) (ofRatio negative n d) := by
  by_cases hn : n = 0
  · subst hn
    rw [ofRatio, if_pos rfl, Nat.cast_zero, zero_div]
    refine .finite ?_ ⟨by norm_num, le_rfl, by norm_num, Or.inr rfl⟩
      (isNearest_zero le_rfl (by rw [mul_zero]; exact (two_zpow_pos _).le))
    rw [bound]
    positivity
  · obtain ⟨hlow, hhigh⟩ := floorLog2_spec (Nat.pos_of_ne_zero hn) hd
    generalize he : max (floorLog2 n d - 52) (-1074) = e
    have heq : ofRatio negative n d = settle negative
        (roundDiv (scale 2 (-e) (n, d)).1 (scale 2 (-e) (n, d)).2) e := by
      rw [ofRatio, if_neg hn, he]
    have hratio : ((scale 2 (-e) (n, d)).1 : ℚ) / (scale 2 (-e) (n, d)).2 = n / d / 2 ^ e := by
      rw [scale_ratio, Nat.cast_ofNat, zpow_neg, ← div_eq_mul_inv]
    obtain ⟨hclose, heven⟩ :=
      roundDiv_spec (scale 2 (-e) (n, d)).1 (scale_pos (n := n) two_pos hd (-e))
    rw [hratio] at hclose heven
    rw [heq]
    refine rounds_settle hclose heven ?_ ?_ (by omega)
    · by_cases hleast : e = -1074
      · exact Or.inr hleast
      · left
        have hexp : (2 : ℚ) ^ (52 + e) = 2 ^ 52 * 2 ^ e := by
          rw [zpow_add₀ (by norm_num)]
          rfl
        rw [le_div_iff₀ (two_zpow_pos e), ← hexp]
        exact (two_zpow_le (by omega)).trans hlow
    · rw [div_lt_iff₀ (two_zpow_pos e)]
      have hexp : (2 : ℚ) ^ (53 + e) = 2 ^ 53 * 2 ^ e := by
        rw [zpow_add₀ (by norm_num)]
        rfl
      rw [← hexp]
      exact hhigh.trans_le (two_zpow_le (by omega))

section Unique

variable {q : ℚ} {c c' : Nat} {e e' : Int}

theorem IsForm.lt_of_lt (h : IsForm c e) (h' : IsForm c' e') (hlt : e < e') :
    magnitude c e < magnitude c' e' := by
  have hfull : ((2 ^ 52 : Nat) : ℚ) ≤ c' := by
    exact_mod_cast h'.full.resolve_right (by have := h.least; omega)
  push_cast at hfull
  exact (h.magnitude_lt hlt).trans_le (mul_le_mul_of_nonneg_right hfull (two_zpow_pos e').le)

theorem IsForm.unique (h : IsForm c e) (h' : IsForm c' e') (heq : magnitude c e = magnitude c' e') :
    c = c' ∧ e = e' := by
  rcases lt_trichotomy e e' with hlt | rfl | hgt
  · exact absurd heq (h.lt_of_lt h' hlt).ne
  · refine ⟨?_, rfl⟩
    exact_mod_cast mul_right_cancel₀ (two_zpow_pos e).ne' heq
  · exact absurd heq (h'.lt_of_lt h hgt).ne'

theorem IsForm.exists_between (h : IsForm c e) (h' : IsForm c' e') (hc : c % 2 = 0)
    (hc' : c' % 2 = 0) (hlt : magnitude c e < magnitude c' e') :
    ∃ c'' e'', IsForm c'' e'' ∧ magnitude c e < magnitude c'' e'' ∧
      magnitude c'' e'' < magnitude c' e' := by
  have hle : e ≤ e' := by
    by_contra hgt
    exact absurd hlt (h'.lt_of_lt h (not_le.mp hgt)).not_gt
  have hpos := two_zpow_pos e
  rw [magnitude_of_le c' hle] at hlt ⊢
  generalize hk : c' * 2 ^ (e' - e).toNat = k at hlt ⊢
  have hbelow : c < k := by
    exact_mod_cast lt_of_mul_lt_mul_right hlt hpos.le
  have hkeven : k % 2 = 0 := by
    rw [← hk, Nat.mul_mod, hc', Nat.zero_mul, Nat.zero_mod]
  have hfits := h.fits
  -- the next number is odd, and the greater one is an even multiple of the step
  refine ⟨c + 1, e, ⟨by omega, h.least, h.greatest, h.full.imp_left (by omega)⟩, ?_, ?_⟩
  · exact mul_lt_mul_of_pos_right (by exact_mod_cast Nat.lt_succ_self c) hpos
  · have hnext : c + 1 < k := by omega
    exact mul_lt_mul_of_pos_right (by exact_mod_cast hnext) hpos

theorem IsNearest.not_lt (h : IsNearest q c e) (h' : IsNearest q c' e') (hform : IsForm c e)
    (hform' : IsForm c' e') : ¬ magnitude c e < magnitude c' e' := by
  intro hlt
  have hdistance : |q - magnitude c e| = |q - magnitude c' e'| :=
    le_antisymm (h.nearest c' e' hform') (h'.nearest c e hform)
  have hc := h.even c' e' hform' hlt.ne' hdistance
  have hc' := h'.even c e hform hlt.ne hdistance.symm
  obtain ⟨c'', e'', hbetween, hleft, hright⟩ := hform.exists_between hform' hc hc' hlt
  have hnear := h.nearest c'' e'' hbetween
  -- the value is in the middle of the two, so what is between them is nearer
  have hmiddle : q - magnitude c e = magnitude c' e' - q := by
    rcases abs_eq_abs.mp hdistance with heq | heq
    · linarith
    · linarith
  have hinside : |q - magnitude c'' e''| < q - magnitude c e := by
    rw [abs_lt]
    constructor <;> linarith
  rw [abs_of_pos (by linarith)] at hnear
  linarith

theorem Rounds.unique {negative : Bool} {x y : Binary64} (hx : Rounds negative q x)
    (hy : Rounds negative q y) : x = y := by
  cases hx with
  | finite hless hform hnearest =>
    cases hy with
    | finite _ hform' hnearest' =>
      obtain ⟨rfl, rfl⟩ := hform.unique hform' (le_antisymm
        (not_lt.mp (hnearest'.not_lt hnearest hform' hform))
        (not_lt.mp (hnearest.not_lt hnearest' hform hform')))
      rfl
    | infinite hmore => exact absurd hless (not_lt.mpr hmore)
  | infinite hmore =>
    cases hy with
    | finite hless => exact absurd hless (not_lt.mpr hmore)
    | infinite => rfl

end Unique

theorem ofInt?_eq_some_iff {n : Int} {x : Binary64} :
    ofInt? n = some x ↔ (n.natAbs : ℚ) < bound ∧ Rounds (decide (n < 0)) n.natAbs x := by
  have hrounds := rounds_ofRatio (decide (n < 0)) n.natAbs one_pos
  rw [Nat.cast_one, div_one] at hrounds
  rw [ofInt?]
  generalize ofRatio (decide (n < 0)) n.natAbs 1 = y at hrounds ⊢
  cases hrounds with
  | finite hless hform hnearest =>
    have hy : Rounds (decide (n < 0)) n.natAbs _ := .finite hless hform hnearest
    constructor
    · intro h
      obtain rfl := Option.some.inj h
      exact ⟨hless, hy⟩
    · rintro ⟨-, hx⟩
      rw [hx.unique hy]
  | infinite hmore =>
    refine iff_of_false (fun h => by cases h) ?_
    rintro ⟨hless, -⟩
    exact absurd hless (not_lt.mpr hmore)

theorem ofInt?_eq_none_iff {n : Int} : ofInt? n = none ↔ bound ≤ n.natAbs := by
  constructor
  · intro h
    by_contra hless
    have hrounds := rounds_ofRatio (decide (n < 0)) n.natAbs one_pos
    rw [Nat.cast_one, div_one] at hrounds
    have hsome := ofInt?_eq_some_iff.mpr ⟨not_le.mp hless, hrounds⟩
    rw [h] at hsome
    cases hsome
  · intro hmore
    cases hx : ofInt? n with
    | none => rfl
    | some x => exact absurd (ofInt?_eq_some_iff.mp hx).1 (not_lt.mpr hmore)

def toRat? : Binary64 → Option ℚ
  | .finite negative coefficient exponent =>
      some (if negative then -magnitude coefficient exponent else magnitude coefficient exponent)
  | _ => none

def towardZero (q : ℚ) : Int :=
  if 0 ≤ q then ⌊q⌋ else ⌈q⌉

theorem floor_magnitude (c : Nat) (e : Int) :
    ⌊magnitude c e⌋ = ((scale 2 e (c, 1)).1 / (scale 2 e (c, 1)).2 : Nat) := by
  have hratio := scale_ratio 2 e (n := c) (d := 1)
  rw [Nat.cast_one, div_one, Nat.cast_ofNat] at hratio
  rw [magnitude, ← hratio, Rat.floor_natCast_div_natCast, Int.natCast_div]

theorem truncate_eq {negative : Bool} {c : Nat} {e : Int} {q : ℚ}
    (h : toRat? (.finite negative c e) = some q) : truncate negative c e = towardZero q := by
  obtain rfl := Option.some.inj h
  have hnonneg : 0 ≤ magnitude c e := mul_nonneg (Nat.cast_nonneg c) (two_zpow_pos e).le
  have heq : truncate negative c e = if negative then -⌊magnitude c e⌋ else ⌊magnitude c e⌋ := by
    rw [floor_magnitude]
    rfl
  rw [heq, towardZero]
  cases negative with
  | false => rw [if_neg Bool.false_ne_true, if_neg Bool.false_ne_true, if_pos hnonneg]
  | true =>
    rw [if_pos rfl, if_pos rfl, ← Int.ceil_neg]
    split
    · rename_i hle
      have hzero : magnitude c e = 0 := le_antisymm (neg_nonneg.mp hle) hnonneg
      rw [hzero, neg_zero, Int.ceil_zero, Int.floor_zero]
    · rfl

theorem atMostZero_eq_false_iff {x : Binary64} : x.atMostZero = false ↔
    x = .nan ∨ x = .infinite false ∨ ∃ q, x.toRat? = some q ∧ 0 < q := by
  cases x with
  | nan => simp [atMostZero]
  | infinite negative => simp [atMostZero, toRat?]
  | finite negative c e =>
    have hpos : 0 < magnitude c e ↔ c ≠ 0 := by
      rw [magnitude, mul_pos_iff_of_pos_right (two_zpow_pos e), Nat.cast_pos, Nat.pos_iff_ne_zero]
    have hnonneg : 0 ≤ magnitude c e := mul_nonneg (Nat.cast_nonneg c) (two_zpow_pos e).le
    cases negative with
    | false => simp [atMostZero, toRat?, hpos]
    | true => simp [atMostZero, toRat?, hnonneg]

end DiffReach.Binary64
