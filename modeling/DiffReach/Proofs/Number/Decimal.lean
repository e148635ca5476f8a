import DiffReach.Proofs.Number.Rounding
import Mathlib.Data.Nat.Digits.Lemmas

namespace DiffReach

namespace Binary64

variable {digits : List Nat} {negative : Bool}

theorem valueOf_eq_ofDigits (digits : List Nat) :
    valueOf digits = Nat.ofDigits 10 digits.reverse := by
  rw [Nat.ofDigits_eq_foldr, List.foldr_reverse]
  simp only [valueOf, Nat.cast_id, add_comm]

theorem valueOf_zero_cons (digits : List Nat) : valueOf (0 :: digits) = valueOf digits :=
  rfl

theorem valueOf_dropWhile (digits : List Nat) :
    valueOf (digits.dropWhile (· == 0)) = valueOf digits := by
  induction digits with
  | nil => rfl
  | cons d digits ih =>
    by_cases hd : d = 0
    · subst hd
      rw [List.dropWhile_cons_of_pos rfl, ih, valueOf_zero_cons]
    · rw [List.dropWhile_cons_of_neg (by simpa using hd)]

theorem ne_zero_of_dropWhile {d : Nat} {rest : List Nat}
    (h : digits.dropWhile (· == 0) = d :: rest) : d ≠ 0 := by
  intro hzero
  have hfirst := List.head?_dropWhile_not (· == 0) digits
  rw [h] at hfirst
  simp [hzero] at hfirst

theorem valueOf_lt (h : ∀ d ∈ digits, d < 10) : valueOf digits < 10 ^ digits.length := by
  rw [valueOf_eq_ofDigits, ← List.length_reverse]
  exact Nat.ofDigits_lt_base_pow_length (by norm_num) fun d hd => h d (List.mem_reverse.mp hd)

theorem pow_length_le_valueOf {d : Nat} (hd : d ≠ 0) (digits : List Nat) :
    10 ^ digits.length ≤ valueOf (d :: digits) := by
  have hpow := Nat.pow_length_le_mul_ofDigits (b := 8) (l := (d :: digits).reverse) (by simp)
    (by simpa using hd)
  change 10 ^ (d :: digits).reverse.length ≤ 10 * Nat.ofDigits 10 (d :: digits).reverse at hpow
  rw [← valueOf_eq_ofDigits, List.length_reverse, List.length_cons, pow_succ'] at hpow
  exact Nat.le_of_mul_le_mul_left hpow (by norm_num)

theorem valueOf_mul_le (h : ∀ d ∈ digits, d < 10) (power : Int) :
    (valueOf digits : ℚ) * 10 ^ power ≤ 10 ^ (power + digits.length) := by
  have hcast : ((valueOf digits : Nat) : ℚ) ≤ (10 ^ digits.length : Nat) :=
    Nat.cast_le.mpr (valueOf_lt h).le
  rw [Nat.cast_pow, Nat.cast_ofNat] at hcast
  rw [add_comm, zpow_add₀ (by norm_num), zpow_natCast]
  exact mul_le_mul_of_nonneg_right hcast (zpow_pos (by norm_num) power).le

theorem le_valueOf_mul {d : Nat} (hd : d ≠ 0) (digits : List Nat) (power : Int) :
    (10 : ℚ) ^ (digits.length + power) ≤ valueOf (d :: digits) * 10 ^ power := by
  have hcast : ((10 ^ digits.length : Nat) : ℚ) ≤ valueOf (d :: digits) :=
    Nat.cast_le.mpr (pow_length_le_valueOf hd digits)
  rw [Nat.cast_pow, Nat.cast_ofNat] at hcast
  rw [zpow_add₀ (by norm_num), zpow_natCast]
  exact mul_le_mul_of_nonneg_right hcast (zpow_pos (by norm_num) power).le

def decimal (digits : List Nat) (power : Int) : ℚ :=
  (Nat.ofDigits 10 digits.reverse : Nat) * 10 ^ power

theorem one_lt_bound : 1 < bound := by
  have hpower : (2 : ℚ) ^ (0 : Int) ≤ 2 ^ (971 : Int) := two_zpow_le (by norm_num)
  rw [zpow_zero] at hpower
  rw [bound]
  generalize (2 : ℚ) ^ (971 : Int) = step at hpower
  linarith

theorem two_zpow_le_ten_zpow {e k : Int} (hk : 0 ≤ k) (h : e ≤ 3 * k) :
    (2 : ℚ) ^ e ≤ 10 ^ k := by
  calc (2 : ℚ) ^ e ≤ 2 ^ (3 * k) := two_zpow_le h
    _ = (2 ^ (3 : Int)) ^ k := zpow_mul 2 3 k
    _ ≤ 10 ^ k := zpow_le_zpow_left₀ hk (by norm_num) (by norm_num)

theorem bound_le_ten_zpow : bound ≤ 10 ^ (400 : Int) := by
  have hpower : (2 : ℚ) ^ (53 + 971 : Int) ≤ 10 ^ (400 : Int) :=
    two_zpow_le_ten_zpow (by norm_num) (by norm_num)
  rw [zpow_add₀ (by norm_num)] at hpower
  refine le_trans ?_ hpower
  exact mul_le_mul_of_nonneg_right (by norm_num) (two_zpow_pos 971).le

theorem two_mul_ten_zpow_le : (2 : ℚ) * 10 ^ (-401 : Int) ≤ 2 ^ (-1074 : Int) := by
  have hpower : (2 : ℚ) ^ (1 + 1074 : Int) ≤ 10 ^ (401 : Int) :=
    two_zpow_le_ten_zpow (by norm_num) (by norm_num)
  rw [zpow_add₀ (by norm_num), zpow_one] at hpower
  rw [zpow_neg, zpow_neg, ← div_eq_mul_inv, ← one_div]
  refine (div_le_div_iff₀ (zpow_pos (by norm_num) _) (two_zpow_pos _)).mpr ?_
  rw [one_mul]
  exact hpower

theorem rounds_zero {q : ℚ} (h0 : 0 ≤ q) (h : q ≤ 10 ^ (-401 : Int)) :
    Rounds negative q (zero negative) := by
  have hsmall := two_mul_ten_zpow_le
  have hone : (10 : ℚ) ^ (-401 : Int) ≤ 1 := zpow_le_one_of_nonpos₀ (by norm_num) (by norm_num)
  have hbound := one_lt_bound
  exact .finite (by linarith) ⟨by norm_num, le_rfl, by norm_num, Or.inr rfl⟩
    (isNearest_zero h0 (by linarith))

theorem rounds_ofDecimal (h : ∀ d ∈ digits, d < 10) (power : Int) :
    Rounds negative (decimal digits power) (ofDecimal negative digits power) := by
  have hvalue : decimal digits power = valueOf (digits.dropWhile (· == 0)) * 10 ^ power := by
    rw [decimal, ← valueOf_eq_ofDigits, valueOf_dropWhile]
  have hdigits : ∀ d ∈ digits.dropWhile (· == 0), d < 10 :=
    fun d hd => h d ((List.dropWhile_sublist _).mem hd)
  have hhead : ∀ d rest, digits.dropWhile (· == 0) = d :: rest → d ≠ 0 :=
    fun _ _ => ne_zero_of_dropWhile
  have heq : ofDecimal negative digits power =
      if (digits.dropWhile (· == 0)).isEmpty ||
          decide (power + (digits.dropWhile (· == 0)).length < -400) then zero negative
      else if 400 < power + (digits.dropWhile (· == 0)).length then .infinite negative
      else ofRatio negative (scale 10 power (valueOf (digits.dropWhile (· == 0)), 1)).1
        (scale 10 power (valueOf (digits.dropWhile (· == 0)), 1)).2 := rfl
  rw [hvalue, heq]
  generalize digits.dropWhile (· == 0) = significant at hdigits hhead
  split
  · rename_i hfar
    refine rounds_zero (by positivity) ?_
    rcases Bool.or_eq_true_iff.mp hfar with hempty | hfar
    · have hzero : (valueOf [] : ℚ) = 0 := Nat.cast_zero
      rw [List.isEmpty_iff.mp hempty, hzero, zero_mul]
      exact (zpow_pos (by norm_num) _).le
    · have hpower := of_decide_eq_true hfar
      exact (valueOf_mul_le hdigits power).trans (zpow_le_zpow_right₀ (by norm_num) (by omega))
  · rename_i hnear
    split
    · rename_i hfar
      refine .infinite (bound_le_ten_zpow.trans ?_)
      cases significant with
      | nil => exact absurd rfl hnear
      | cons d rest =>
        rw [List.length_cons, Nat.cast_succ] at hfar
        calc (10 : ℚ) ^ (400 : Int) ≤ 10 ^ ((rest.length : Int) + power) :=
              zpow_le_zpow_right₀ (by norm_num) (by omega)
          _ ≤ valueOf (d :: rest) * 10 ^ power := le_valueOf_mul (hhead d rest rfl) rest power
    · have hratio := rounds_ofRatio negative (scale 10 power (valueOf significant, 1)).1
        (scale_pos (n := valueOf significant) (by norm_num : 0 < 10) one_pos power)
      rw [scale_ratio, Nat.cast_one, div_one, Nat.cast_ofNat] at hratio
      exact hratio

end Binary64

end DiffReach
