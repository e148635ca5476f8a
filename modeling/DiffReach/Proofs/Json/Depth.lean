import DiffReach.Json.Reader

namespace DiffReach.Json

theorem skipSpace_bracket (cs : List Char) : skipSpace ('[' :: cs) = '[' :: cs :=
  rfl

theorem value_replicate {room fuel n : Nat} (hn : room < n) (hf : 2 * room < fuel)
    (maxDigits : Nat) (rest : List Char) :
    value maxDigits fuel room (List.replicate n '[' ++ rest) = .error .tooDeep := by
  induction room generalizing fuel n with
  | zero =>
    obtain ⟨fuel, rfl⟩ := Nat.exists_eq_succ_of_ne_zero (Nat.ne_of_gt hf)
    obtain ⟨n, rfl⟩ := Nat.exists_eq_succ_of_ne_zero (Nat.ne_of_gt hn)
    rfl
  | succ room ih =>
    obtain ⟨fuel, rfl⟩ : ∃ k, fuel = k + 2 := ⟨fuel - 2, by omega⟩
    obtain ⟨n, rfl⟩ : ∃ m, n = m + 2 := ⟨n - 2, by omega⟩
    have hinner : value maxDigits fuel room (List.replicate (n + 1) '[' ++ rest) =
        .error .tooDeep :=
      ih (by omega) (by omega)
    rw [List.replicate_succ, List.cons_append] at hinner ⊢
    rw [List.replicate_succ, List.cons_append]
    simp only [value, skipSpace_bracket, if_neg (Nat.succ_ne_zero room)]
    change items maxDigits (fuel + 1) room [] ('[' :: (List.replicate n '[' ++ rest)) = _
    rw [items, hinner]

theorem stringRest_x (cs : List Char) :
    stringRest [] ('x' :: '"' :: cs) = .ok (['x'.toNat], cs) := by
  unfold stringRest
  rw [if_neg (by decide), if_neg (by decide), if_neg (by decide)]
  unfold stringRest
  rw [if_pos rfl]
  rfl

section Field

variable (maxDigits : Nat) {room fuel : Nat} {deep : List Char}

theorem fields_tooDeep (h : value maxDigits fuel room ('[' :: deep) = .error .tooDeep) :
    fields maxDigits (fuel + 1) room [] ('"' :: 'x' :: '"' :: ':' :: ' ' :: '[' :: deep) =
      .error .tooDeep := by
  have hcolon : skipSpace (':' :: ' ' :: '[' :: deep) = ':' :: ' ' :: '[' :: deep := rfl
  have hblank : skipSpace (' ' :: '[' :: deep) = '[' :: deep := rfl
  simp only [fields, stringRest_x, hcolon, hblank, h]

theorem value_list_tooDeep {cs : List Char}
    (h : value maxDigits fuel room ('\x7b' :: cs) = .error .tooDeep) :
    value maxDigits (fuel + 2) (room + 1) ('[' :: '\x7b' :: cs) = .error .tooDeep := by
  have hitems : items maxDigits (fuel + 1) room [] ('\x7b' :: cs) = .error .tooDeep := by
    rw [items, h]
  simp only [value, if_neg (Nat.succ_ne_zero room)]
  exact hitems

/-- The lists stand in a field of an object of a list. With little room it is one of these two that
is too deep. -/
theorem value_field_replicate {n : Nat} (hn : room ≤ n) (hf : 2 * room < fuel) (rest : List Char) :
    value maxDigits fuel room ("[\x7b\"x\": ".toList ++ (List.replicate n '[' ++ rest)) =
      .error .tooDeep := by
  change value maxDigits fuel room
    ('[' :: '\x7b' :: '"' :: 'x' :: '"' :: ':' :: ' ' :: (List.replicate n '[' ++ rest)) = _
  rcases room with _ | _ | room
  · obtain ⟨fuel, rfl⟩ : ∃ k, fuel = k + 1 := ⟨fuel - 1, by omega⟩
    rfl
  · obtain ⟨fuel, rfl⟩ : ∃ k, fuel = k + 3 := ⟨fuel - 3, by omega⟩
    exact value_list_tooDeep maxDigits rfl
  · obtain ⟨fuel, rfl⟩ : ∃ k, fuel = k + 4 := ⟨fuel - 4, by omega⟩
    obtain ⟨n, rfl⟩ : ∃ m, n = m + 1 := ⟨n - 1, by omega⟩
    have hinner : value maxDigits fuel room (List.replicate (n + 1) '[' ++ rest) =
        .error .tooDeep :=
      value_replicate (by omega) (by omega) maxDigits rest
    rw [List.replicate_succ, List.cons_append] at hinner ⊢
    refine value_list_tooDeep maxDigits ?_
    simp only [value, if_neg (Nat.succ_ne_zero room)]
    exact fields_tooDeep maxDigits hinner

end Field

theorem readWith_field_replicate (bounds : Bounds) {n : Nat} (hn : bounds.maxDepth ≤ n)
    (rest : List Char) :
    readWith bounds (String.ofList ("[\x7b\"x\": ".toList ++ (List.replicate n '[' ++ rest))) =
      .error .tooDeep := by
  have hskip : skipSpace ("[\x7b\"x\": ".toList ++ (List.replicate n '[' ++ rest)) =
      "[\x7b\"x\": ".toList ++ (List.replicate n '[' ++ rest) :=
    rfl
  rw [readWith, String.toList_ofList, hskip]
  rw [value_field_replicate _ hn]
  simp only [List.length_append, List.length_replicate]
  omega

end DiffReach.Json
