import DiffReach.Limits

namespace DiffReach

namespace Limits

def Whole (l : Limits) : Prop :=
  ∀ key, key ≠ .requestTimeout → ∃ n : Int, l.get key = .int n

structure Positive (l : Limits) : Prop where
  whole : ∀ key, key ≠ .requestTimeout → ∃ n : Int, 0 < n ∧ l.get key = .int n
  timeout : ∃ x, l.requestTimeout = .float x ∧ x.atMostZero = false

def Counting (l : Limits) : Prop :=
  ∀ key, key ≠ .requestTimeout → ∃ n : Int, 0 < n ∧ l.get key = .int n

def count (l : Limits) (key : Key) : Nat :=
  ((l.get key).whole?.getD 0).toNat

theorem Counting.get_eq {l : Limits} (h : l.Counting) (key : Key) (hk : key ≠ .requestTimeout) :
    l.get key = .int (l.count key) := by
  obtain ⟨n, hn, heq⟩ := h key hk
  rw [count, heq]
  change _ = Value.int (n.toNat : Int)
  rw [Int.toNat_of_nonneg (Int.le_of_lt hn)]

theorem Counting.count_pos {l : Limits} (h : l.Counting) (key : Key) (hk : key ≠ .requestTimeout) :
    0 < l.count key := by
  obtain ⟨n, hn, heq⟩ := h key hk
  rw [count, heq]
  change 0 < n.toNat
  omega

theorem Positive.get_eq {l : Limits} (h : l.Positive) (key : Key) (hk : key ≠ .requestTimeout) :
    l.get key = .int (l.count key) :=
  Counting.get_eq h.whole key hk

theorem Positive.count_pos {l : Limits} (h : l.Positive) (key : Key) (hk : key ≠ .requestTimeout) :
    0 < l.count key :=
  Counting.count_pos h.whole key hk

theorem Positive.whole_limits {l : Limits} (h : l.Positive) : l.Whole := by
  intro key hk
  obtain ⟨n, -, heq⟩ := h.whole key hk
  exact ⟨n, heq⟩

theorem positive_default : ({} : Limits).Positive := by
  constructor
  · intro key hk
    cases key with
    | requestTimeout => exact absurd rfl hk
    | _ => exact ⟨_, by decide, rfl⟩
  · exact ⟨_, rfl, by decide⟩

end Limits

theorem capped_natCast {α : Type} (n : Nat) (xs : List α) : capped n xs = xs.take n := by
  rw [capped, if_pos (Int.natCast_nonneg n), Int.toNat_natCast]

theorem capped_of_length_le {α : Type} {cap : Int} {xs : List α} (h : (xs.length : Int) ≤ cap) :
    capped cap xs = xs := by
  rw [capped, if_pos (by omega), List.take_of_length_le (by omega)]

namespace Value

theorem cut_natCast {α : Type} (n : Nat) (xs : List α) :
    (Value.int n).cut xs = .ok (xs.take n) := by
  change Except.ok (capped n xs) = _
  rw [capped_natCast]

theorem cut_int {α : Type} (n : Int) (xs : List α) : (Value.int n).cut xs = .ok (capped n xs) :=
  rfl

theorem isExceededBy_int (limit n : Int) :
    (Value.int limit).isExceededBy n = .ok (decide (limit < n)) :=
  rfl

theorem isExceededBy_natCast (limit n : Nat) :
    (Value.int limit).isExceededBy n = .ok (decide (limit < n)) := by
  change Except.ok (decide ((limit : Int) < n)) = _
  simp

theorem countBelow_natCast (limit all : Nat) : (Value.int limit).countBelow all = .ok limit := by
  change Except.ok (Int.toNat limit) = _
  rw [Int.toNat_natCast]

end Value

theorem Limits.Counting.cut_maxFetchedFiles {l : Limits} (h : l.Counting) {α : Type}
    (xs : List α) : l.maxFetchedFiles.cut xs = .ok (xs.take (l.count .maxFetchedFiles)) := by
  rw [show l.maxFetchedFiles = .int _ from h.get_eq .maxFetchedFiles (by decide),
    Value.cut_natCast]

theorem Limits.Counting.exists_allows {l : Limits} (h : l.Counting) (n : Nat) :
    ∃ spare, l.fetchWorkers.allows n = .ok spare :=
  ⟨_, by rw [show l.fetchWorkers = .int _ from h.get_eq .fetchWorkers (by decide)]; rfl⟩

end DiffReach
