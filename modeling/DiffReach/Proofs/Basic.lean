import Mathlib.Data.List.Forall2
import Mathlib.Data.List.Infix
import Mathlib.Data.List.Nodup
import Mathlib.Data.List.TakeWhile

namespace DiffReach

section Outcomes

variable {ε α β : Type} {P : α → Prop} {Q : β → Prop}

theorem exists_of_map_eq_ok {x : Except ε α} {f : α → β} {b : β} (h : x.map f = .ok b) :
    ∃ a, x = .ok a ∧ f a = b := by
  cases x with
  | error e => cases h
  | ok a => exact ⟨a, rfl, Except.ok.inj h⟩

theorem mapM_eq_ok_iff {f : α → Except ε β} {xs : List α} {ys : List β} :
    xs.mapM f = .ok ys ↔ xs.map f = ys.map .ok := by
  induction xs generalizing ys with
  | nil =>
    rw [List.mapM_nil, List.map_nil, eq_comm (a := []), List.map_eq_nil_iff, eq_comm (a := ys)]
    exact ⟨Except.ok.inj, congrArg Except.ok⟩
  | cons x xs ih =>
    rw [List.mapM_cons, List.map_cons, eq_comm (b := ys.map _), List.map_eq_cons_iff]
    constructor
    · intro h
      cases hx : f x with
      | error fault =>
        rw [hx] at h
        cases h
      | ok y =>
        cases hxs : xs.mapM f with
        | error fault =>
          rw [hx, hxs] at h
          cases h
        | ok rest =>
          rw [hx, hxs] at h
          cases h
          exact ⟨y, rest, rfl, rfl, (ih.mp hxs).symm⟩
    · rintro ⟨y, rest, rfl, hy, hrest⟩
      rw [← hy, ih.mpr hrest.symm]
      rfl

theorem forall₂_of_map_eq_map_ok {f : α → Except ε β} {xs : List α} {ys : List β}
    (h : xs.map f = ys.map .ok) : List.Forall₂ (fun x y => f x = .ok y) xs ys := by
  rw [← List.forall₂_eq_eq_eq, List.forall₂_map_left_iff, List.forall₂_map_right_iff] at h
  exact h

def Ensures (P : α → Prop) (x : Except ε α) : Prop :=
  ∀ a, x = .ok a → P a

theorem ensures_ok {a : α} (h : P a) : Ensures P (.ok a : Except ε α) := by
  intro b hb
  obtain rfl := Except.ok.inj hb
  exact h

theorem ensures_error (e : ε) : Ensures P (.error e) := by
  intro a ha
  cases ha

theorem Ensures.bind {x : Except ε α} {f : α → Except ε β} (h : Ensures P x)
    (hf : ∀ a, P a → Ensures Q (f a)) : Ensures Q (x >>= f) := by
  cases x with
  | error e => exact ensures_error e
  | ok a => exact hf a (h a rfl)

theorem ensures_bind {x : Except ε α} {f : α → Except ε β} (hf : ∀ a, Ensures Q (f a)) :
    Ensures Q (x >>= f) := by
  cases x with
  | error e => exact ensures_error e
  | ok a => exact hf a

theorem Ensures.map {x : Except ε α} {f : α → β} (h : Ensures P x) (hf : ∀ a, P a → Q (f a)) :
    Ensures Q (x.map f) := by
  cases x with
  | error e => exact ensures_error e
  | ok a => exact ensures_ok (hf a (h a rfl))

theorem ensures_map {x : Except ε α} {f : α → β} (hf : ∀ a, Q (f a)) : Ensures Q (x.map f) := by
  cases x with
  | error e => exact ensures_error e
  | ok a => exact ensures_ok (hf a)

theorem ensures_foldlM {step : α → β → Except ε α} (hstep : ∀ a b, P a → Ensures P (step a b))
    (bs : List β) {a : α} (ha : P a) : Ensures P (bs.foldlM step a) := by
  induction bs generalizing a with
  | nil => exact ensures_ok ha
  | cons b bs ih =>
    rw [List.foldlM_cons]
    exact (hstep a b ha).bind fun next hnext => ih hnext

end Outcomes

section Lists

variable {α β : Type}

theorem flatMap_perm {f : α → List β} {xs ys : List α} (h : xs.Perm ys)
    (hone : xs.Pairwise fun a b => f a = [] ∨ f b = []) : xs.flatMap f = ys.flatMap f := by
  -- Of two neighbours that change places one contributes nothing.
  induction h with
  | nil => rfl
  | cons x _ ih => rw [List.flatMap_cons, List.flatMap_cons, ih (List.pairwise_cons.mp hone).2]
  | swap x y zs =>
    obtain ⟨hfirst, -⟩ := List.pairwise_cons.mp hone
    simp only [List.flatMap_cons]
    rcases hfirst x List.mem_cons_self with hnil | hnil <;> simp [hnil]
  | trans hfirst _ ih ih' =>
    refine (ih hone).trans (ih' ?_)
    exact (hfirst.pairwise_iff fun hab => hab.symm).mp hone

theorem mem_head?_append {a : α} {front rest : List α} (h : a ∈ (front ++ rest).head?) :
    a ∈ front.head? ∨ front = [] ∧ a ∈ rest.head? := by
  cases front with
  | nil => exact Or.inr ⟨rfl, h⟩
  | cons b front => exact Or.inl h

theorem filter_eq_nil_of_notMem {writes : List (String × α)} {key : String}
    (h : key ∉ writes.map Prod.fst) : writes.filter (fun w => w.1 = key) = [] := by
  rw [List.filter_eq_nil_iff]
  intro write hwrite hkey
  exact h (List.mem_map.mpr ⟨write, hwrite, by simpa using hkey⟩)

section Places

variable [DecidableEq α]

theorem idxOf_lt_of_prefix {front names : List α} (h : front <+: names) {a b : α}
    (ha : a ∈ front) (hb : b ∉ front) : names.idxOf a < names.idxOf b := by
  have hlt := (h.mem_iff_idxOf_lt_length a).mp ha
  have hle := mt (h.mem_iff_idxOf_lt_length b).mpr hb
  omega

theorem pairwise_idxOf_lt {names : List α} (h : names.Nodup) :
    names.Pairwise fun first last => names.idxOf first < names.idxOf last := by
  rw [List.pairwise_iff_getElem]
  intro i j hi hj hlt
  rwa [h.idxOf_getElem, h.idxOf_getElem]

theorem isPrefixOf?_append (front rest : List α) : front.isPrefixOf? (front ++ rest) = some rest :=
  List.isPrefixOf?_eq_some_iff_append_eq.mpr rfl

theorem not_mem_of_mem_splitOn {sep : α} {xs part : List α} (h : part ∈ xs.splitOn sep) :
    sep ∉ part := by
  induction xs generalizing part with
  | nil =>
    obtain rfl : part = [] := by simpa using h
    exact List.not_mem_nil
  | cons x xs ih =>
    rw [List.splitOn_cons_eq_if_modifyHead] at h
    split at h
    · rcases List.mem_cons.mp h with rfl | h
      · exact List.not_mem_nil
      · exact ih h
    · rename_i hx
      obtain ⟨first, rest, heq⟩ := List.exists_cons_of_ne_nil (List.splitOn_ne_nil sep xs)
      rw [heq, List.modifyHead_cons, List.mem_cons] at h
      rcases h with rfl | h
      · have hfirst : sep ∉ first := ih (heq ▸ List.mem_cons_self)
        have hne : sep ≠ x := fun hsep => hx (by rw [hsep, beq_self_eq_true])
        simp [hne, hfirst]
      · exact ih (heq ▸ List.mem_cons_of_mem first h)

end Places

section Runs

variable {p : α → Bool} {front rest other others : List α}

theorem dropWhile_eq_self (h : ∀ a ∈ rest.head?, p a = false) : rest.dropWhile p = rest := by
  cases rest with
  | nil => rfl
  | cons a rest => exact List.dropWhile_cons_of_neg (by simp [h a rfl])

theorem takeWhile_eq_front (hfront : ∀ a ∈ front, p a = true)
    (hrest : ∀ a ∈ rest.head?, p a = false) : (front ++ rest).takeWhile p = front := by
  have hstop : rest.takeWhile p = [] := by
    cases rest with
    | nil => rfl
    | cons a rest => exact List.takeWhile_cons_of_neg (by simp [hrest a rfl])
  rw [List.takeWhile_append_of_pos hfront, hstop, List.append_nil]

theorem dropWhile_eq_rest (hfront : ∀ a ∈ front, p a = true)
    (hrest : ∀ a ∈ rest.head?, p a = false) : (front ++ rest).dropWhile p = rest := by
  rw [List.dropWhile_append_of_pos hfront, dropWhile_eq_self hrest]

theorem append_inj_of_stop (hfront : ∀ a ∈ front, p a = true)
    (hrest : ∀ a ∈ rest.head?, p a = false) (hother : ∀ a ∈ other, p a = true)
    (hothers : ∀ a ∈ others.head?, p a = false) (h : front ++ rest = other ++ others) :
    front = other ∧ rest = others := by
  constructor
  · rw [← takeWhile_eq_front hfront hrest, h, takeWhile_eq_front hother hothers]
  · rw [← dropWhile_eq_rest hfront hrest, h, dropWhile_eq_rest hother hothers]

end Runs

theorem intercalate_eq_join (sep first : String) (rest : List String) :
    sep.intercalate (first :: rest) = first ++ String.join (rest.map (sep ++ ·)) := by
  induction rest generalizing first with
  | nil => rw [String.intercalate_singleton, List.map_nil, String.join_nil, String.append_empty]
  | cons second rest ih =>
    rw [String.intercalate_cons_cons, ih, List.map_cons, String.join_cons, String.append_assoc,
      String.append_assoc]

end Lists

end DiffReach
