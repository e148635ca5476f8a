import DiffReach.Ascending
import Mathlib.Data.List.Sort
import Mathlib.Data.String.Basic

namespace DiffReach.Ascending

variable {α : Type} [LinearOrder α]

theorem mem_insert {x y : α} {ys : List α} : x ∈ insert y ys ↔ x = y ∨ x ∈ ys := by
  refine ⟨mem_of_mem_insert, fun h => ?_⟩
  induction ys with
  | nil => simpa [insert] using h
  | cons z zs ih =>
    rw [insert]
    split
    · simpa using h
    · split
      · rcases h with rfl | h
        · exact List.mem_cons_of_mem _ (ih (Or.inl rfl))
        · rcases List.mem_cons.mp h with rfl | h
          · exact List.mem_cons_self
          · exact List.mem_cons_of_mem _ (ih (Or.inr h))
      · rename_i hyz hzy
        rcases h with rfl | h
        · rw [le_antisymm (not_lt.mp hzy) (not_lt.mp hyz)]
          exact List.mem_cons_self
        · exact h

theorem pairwise_insert (x : α) {ys : List α} (h : ys.Pairwise (· < ·)) :
    (insert x ys).Pairwise (· < ·) := by
  induction ys with
  | nil => simp [insert]
  | cons y ys ih =>
    obtain ⟨hy, hys⟩ := List.pairwise_cons.mp h
    rw [insert]
    split
    · rename_i hxy
      refine List.pairwise_cons.mpr ⟨fun z hz => ?_, h⟩
      rcases List.mem_cons.mp hz with rfl | hz
      · exact hxy
      · exact hxy.trans (hy z hz)
    · split
      · rename_i hyx
        refine List.pairwise_cons.mpr ⟨fun z hz => ?_, ih hys⟩
        rcases mem_insert.mp hz with rfl | hz
        · exact hyx
        · exact hy z hz
      · exact h

theorem mem_ofList {x : α} {xs : List α} : x ∈ ofList xs ↔ x ∈ xs := by
  induction xs with
  | nil => simp [ofList]
  | cons y ys ih =>
    change x ∈ insert y (ofList ys) ↔ _
    rw [mem_insert, ih, List.mem_cons]

theorem pairwise_ofList (xs : List α) : (ofList xs).Pairwise (· < ·) := by
  induction xs with
  | nil => exact List.Pairwise.nil
  | cons x xs ih => exact pairwise_insert x ih

theorem nodup_ofList (xs : List α) : (ofList xs).Nodup :=
  (pairwise_ofList xs).imp ne_of_lt

theorem ofList_congr {xs ys : List α} (h : ∀ x, x ∈ xs ↔ x ∈ ys) : ofList xs = ofList ys := by
  refine (pairwise_ofList xs).eq_of_mem_iff (pairwise_ofList ys) fun x => ?_
  rw [mem_ofList, mem_ofList, h]

end DiffReach.Ascending
