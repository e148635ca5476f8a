namespace DiffReach.Ascending

variable {α : Type} [LT α] [DecidableLT α]

def insert (x : α) : List α → List α
  | [] => [x]
  | y :: ys => if x < y then x :: y :: ys else if y < x then y :: insert x ys else y :: ys

def ofList (xs : List α) : List α :=
  xs.foldr insert []

theorem mem_of_mem_insert {x y : α} {ys : List α} (h : x ∈ insert y ys) : x = y ∨ x ∈ ys := by
  induction ys with
  | nil => simpa [insert] using h
  | cons z zs ih =>
    rw [insert] at h
    split at h
    · simpa using h
    · split at h
      · rcases List.mem_cons.mp h with rfl | h
        · simp
        · rcases ih h with rfl | h <;> simp [*]
      · exact Or.inr h

theorem mem_of_mem_ofList {x : α} {xs : List α} (h : x ∈ ofList xs) : x ∈ xs := by
  induction xs with
  | nil => simp [ofList] at h
  | cons y ys ih =>
    rcases mem_of_mem_insert h with rfl | h
    · simp
    · exact List.mem_cons_of_mem _ (ih h)

end DiffReach.Ascending
