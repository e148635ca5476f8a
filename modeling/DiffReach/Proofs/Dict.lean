import DiffReach.Dict
import DiffReach.Proofs.Basic
import Mathlib.Data.List.Induction

namespace DiffReach.Dict

variable {α β : Type}

theorem fetch_cons (key : String) (value : α) (d : Dict α) (name : String) :
    fetch ((key, value) :: d) name = if name = key then some value else d.fetch name := by
  by_cases h : name = key
  · simp [fetch, h]
  · have hb : (name == key) = false := by simpa using h
    simp [fetch, List.lookup_cons, h, hb]

theorem fetch_eq_none_iff {d : Dict α} {key : String} : d.fetch key = none ↔ key ∉ d.names := by
  rw [← holds_iff, holds, ← Option.not_isSome_iff_eq_none]
  rfl

theorem fetch_of_mem {d : Dict α} (hd : d.names.Nodup) {key : String} {value : α}
    (h : (key, value) ∈ d) : d.fetch key = some value := by
  induction d with
  | nil => simp at h
  | cons entry d ih =>
    obtain ⟨k, v⟩ := entry
    obtain ⟨hk, hd⟩ := List.nodup_cons.mp hd
    rw [fetch_cons]
    rcases List.mem_cons.mp h with heq | hmem
    · obtain ⟨rfl, rfl⟩ := Prod.mk.inj heq
      simp
    · have hne : key ≠ k := by
        rintro rfl
        exact hk (List.mem_map.mpr ⟨_, hmem, rfl⟩)
      rw [if_neg hne]
      exact ih hd hmem

theorem fetch_mapValues (f : α → β) (d : Dict α) (key : String) :
    (d.mapValues f).fetch key = (d.fetch key).map f := by
  induction d with
  | nil => rfl
  | cons entry d ih =>
    obtain ⟨k, v⟩ := entry
    rw [mapValues, List.map_cons, fetch_cons, fetch_cons]
    split
    · rfl
    · exact ih

@[simp]
theorem names_mapValues (f : α → β) (d : Dict α) : (d.mapValues f).names = d.names := by
  simp [mapValues, names, Function.comp_def]

theorem fetch_put (d : Dict α) (key : String) (value : α) (name : String) :
    (d.put key value).fetch name = if name = key then some value else d.fetch name := by
  induction d with
  | nil => rw [put, fetch_cons]
  | cons entry d ih =>
    obtain ⟨k, v⟩ := entry
    rw [put]
    by_cases hk : k = key
    · subst hk
      rw [if_pos rfl, fetch_cons, fetch_cons]
      split <;> rfl
    · rw [if_neg hk, fetch_cons, fetch_cons, ih]
      by_cases hn : name = k
      · subst hn
        simp [hk]
      · simp [hn]

theorem mem_names_put {d : Dict α} {key name : String} {value : α} :
    name ∈ (d.put key value).names ↔ name = key ∨ name ∈ d.names := by
  rw [← holds_iff, ← holds_iff]
  have h := fetch_put d key value name
  rw [fetch, fetch] at h
  rw [holds, holds, h]
  by_cases hn : name = key <;> simp [hn]

theorem nodup_put {d : Dict α} (h : d.names.Nodup) (key : String) (value : α) :
    (d.put key value).names.Nodup := by
  induction d with
  | nil => simp [put, names]
  | cons entry d ih =>
    obtain ⟨k, v⟩ := entry
    obtain ⟨hk, hd⟩ := List.nodup_cons.mp h
    rw [put]
    split
    · exact h
    · rename_i hne
      refine List.nodup_cons.mpr ⟨fun hmem => ?_, ih hd⟩
      rcases mem_names_put.mp hmem with heq | hmem
      · exact hne heq
      · exact hk hmem

theorem put_put (d : Dict α) (key : String) (value other : α) :
    (d.put key value).put key other = d.put key other := by
  induction d with
  | nil => simp [put]
  | cons entry d ih =>
    obtain ⟨k, v⟩ := entry
    by_cases hk : k = key <;> simp [put, hk, ih]

theorem put_of_fetch {d : Dict α} {key : String} {value : α} (h : d.fetch key = some value) :
    d.put key value = d := by
  induction d with
  | nil => simp [fetch] at h
  | cons entry d ih =>
    obtain ⟨k, v⟩ := entry
    rw [fetch_cons] at h
    by_cases hk : k = key
    · subst hk
      simp_all [put]
    · rw [if_neg (Ne.symm hk)] at h
      simp [put, hk, ih h]

theorem put_comm {d : Dict α} {key name : String} (hne : key ≠ name) (h : key ∈ d.names)
    (value other : α) : (d.put name other).put key value = (d.put key value).put name other := by
  -- the key is present and keeps its place, whether or not the name is new
  induction d with
  | nil => simp [names] at h
  | cons entry d ih =>
    obtain ⟨k, v⟩ := entry
    by_cases hk : k = key
    · subst hk
      simp [put, hne]
    · have hmem : key ∈ names d := by
        rcases List.mem_cons.mp h with heq | h
        · exact absurd heq.symm hk
        · exact h
      by_cases hn : k = name
      · subst hn
        simp [put, hk]
      · simp [put, hk, hn, ih hmem]

theorem putAll_cons (d : Dict α) (write : String × α) (writes : List (String × α)) :
    d.putAll (write :: writes) = (d.put write.1 write.2).putAll writes :=
  rfl

theorem putAll_append (d : Dict α) (writes more : List (String × α)) :
    d.putAll (writes ++ more) = (d.putAll writes).putAll more :=
  List.foldl_append

theorem gather_concat (writes : List (String × α)) (write : String × α) :
    gather (writes ++ [write]) = (gather writes).put write.1 write.2 :=
  putAll_append [] writes [write]

theorem put_of_notMem {d : Dict α} {key : String} (h : key ∉ d.names) (value : α) :
    d.put key value = d ++ [(key, value)] := by
  induction d with
  | nil => rfl
  | cons entry d ih =>
    obtain ⟨k, v⟩ := entry
    obtain ⟨hk, hrest⟩ : key ≠ k ∧ key ∉ Dict.names d := not_or.mp (mt List.mem_cons.mpr h)
    rw [put, if_neg (Ne.symm hk), ih hrest, List.cons_append]

theorem gather_of_nodup {writes : List (String × α)} (h : (writes.map Prod.fst).Nodup) :
    gather writes = writes := by
  induction writes using List.reverseRecOn with
  | nil => rfl
  | append_singleton writes write ih =>
    rw [List.map_append, List.nodup_append] at h
    obtain ⟨hwrites, -, hfresh⟩ := h
    have hnew : write.1 ∉ Dict.names writes := fun hmem => hfresh _ hmem _ (by simp) rfl
    rw [gather_concat, ih hwrites, put_of_notMem hnew]

theorem nodup_gather (writes : List (String × α)) : (gather writes).names.Nodup := by
  induction writes using List.reverseRecOn with
  | nil => exact List.nodup_nil
  | append_singleton writes write ih =>
    rw [gather_concat]
    exact nodup_put ih _ _

theorem mem_names_gather {writes : List (String × α)} {key : String} :
    key ∈ (gather writes).names ↔ key ∈ writes.map Prod.fst := by
  induction writes using List.reverseRecOn with
  | nil => rfl
  | append_singleton writes write ih =>
    rw [gather_concat, mem_names_put, ih]
    simp [or_comm]

theorem names_put_of_mem {d : Dict α} {key : String} (h : key ∈ d.names) (value : α) :
    (d.put key value).names = d.names := by
  induction d with
  | nil => cases h
  | cons entry d ih =>
    obtain ⟨k, v⟩ := entry
    by_cases hk : k = key
    · simp [put, names, hk]
    · rcases List.mem_cons.mp h with heq | h
      · exact absurd heq.symm hk
      · rw [put, if_neg hk]
        exact congrArg (k :: ·) (ih h)

theorem names_gather (writes : List (String × α)) :
    (gather writes).names = (writes.map Prod.fst).eraseDups := by
  induction writes using List.reverseRecOn with
  | nil => rfl
  | append_singleton writes write ih =>
    rw [gather_concat, List.map_append, List.eraseDups_append]
    by_cases hseen : write.1 ∈ writes.map Prod.fst
    · rw [names_put_of_mem (mem_names_gather.mpr hseen), ih]
      simp [List.removeAll, hseen]
    · rw [put_of_notMem (mt mem_names_gather.mp hseen), names, List.map_append, ← names, ih]
      simp [List.removeAll, hseen, List.eraseDups_cons]

theorem putAll_put_comm {d : Dict α} {key : String} (hd : key ∈ d.names) (value : α)
    {writes : Dict α} (hw : key ∉ writes.names) :
    (d.putAll writes).put key value = (d.put key value).putAll writes := by
  induction writes generalizing d with
  | nil => rfl
  | cons write writes ih =>
    have hne : key ≠ write.1 := fun heq => hw (heq ▸ List.mem_cons_self)
    rw [putAll_cons, putAll_cons, ← put_comm hne hd]
    exact ih (mem_names_put.mpr (Or.inr hd)) fun hmem => hw (List.mem_cons_of_mem _ hmem)

theorem putAll_put (d : Dict α) {writes : Dict α} (hw : writes.names.Nodup) (key : String)
    (value : α) : d.putAll (writes.put key value) = (d.putAll writes).put key value := by
  induction writes generalizing d with
  | nil => rfl
  | cons write writes ih =>
    obtain ⟨k, v⟩ := write
    obtain ⟨hk, hw⟩ := List.nodup_cons.mp hw
    rw [put]
    split
    · rename_i heq
      subst heq
      rw [putAll_cons, putAll_cons, putAll_put_comm (mem_names_put.mpr (Or.inl rfl)) value hk,
        put_put]
    · exact ih (d.put k v) hw

theorem putAll_gather (d : Dict α) (writes : List (String × α)) :
    d.putAll (gather writes) = d.putAll writes := by
  induction writes using List.reverseRecOn with
  | nil => rfl
  | append_singleton writes write ih =>
    rw [gather_concat, putAll_put d (nodup_gather writes), ih, putAll_append]
    rfl

theorem mapValues_put (f : α → β) (d : Dict α) (key : String) (value : α) :
    (d.put key value).mapValues f = (d.mapValues f).put key (f value) := by
  induction d with
  | nil => rfl
  | cons entry d ih =>
    obtain ⟨k, v⟩ := entry
    by_cases hk : k = key
    · simp [put, mapValues, hk]
    · simpa [put, mapValues, hk] using ih

theorem mapValues_gather (f : α → β) (writes : List (String × α)) :
    (gather writes).mapValues f = gather (mapValues f writes) := by
  induction writes using List.reverseRecOn with
  | nil => rfl
  | append_singleton writes write ih =>
    have hmap : mapValues f (writes ++ [write]) = mapValues f writes ++ [(write.1, f write.2)] := by
      simp [mapValues]
    rw [gather_concat, mapValues_put, ih, hmap, gather_concat]

def LastWrite (writes : List (String × α)) (key : String) (value : α) : Prop :=
  ∃ before after, writes = before ++ (key, value) :: after ∧ key ∉ after.map Prod.fst

theorem lastWrite_concat {writes : List (String × α)} {write : String × α} {key : String}
    {value : α} : LastWrite (writes ++ [write]) key value ↔
      if key = write.1 then value = write.2 else LastWrite writes key value := by
  constructor
  · rintro ⟨before, after, heq, hafter⟩
    rcases List.eq_nil_or_concat after with rfl | ⟨after, last, rfl⟩
    · obtain ⟨_, hw⟩ := List.append_inj' heq rfl
      obtain rfl : write = (key, value) := by simpa using hw
      simp
    · have hsplit : writes ++ [write] = (before ++ (key, value) :: after) ++ [last] := by simp [heq]
      obtain ⟨hws, hw⟩ := List.append_inj' hsplit rfl
      obtain rfl : write = last := by simpa using hw
      have hlast : key ∉ after.map Prod.fst ∧ key ≠ write.1 := by simpa using hafter
      rw [if_neg hlast.2]
      exact ⟨before, after, hws, hlast.1⟩
  · intro h
    split at h
    · rename_i hkey
      exact ⟨writes, [], by simp [h, hkey], by simp⟩
    · rename_i hkey
      obtain ⟨before, after, rfl, hafter⟩ := h
      exact ⟨before, after ++ [write], by simp, by simp_all⟩

theorem lastWrite_append {writes more : List (String × α)} {key : String} {value : α} :
    LastWrite (writes ++ more) key value ↔ LastWrite more key value ∨
      LastWrite writes key value ∧ key ∉ more.map Prod.fst := by
  induction more using List.reverseRecOn with
  | nil => simp [LastWrite]
  | append_singleton more write ih =>
    rw [← List.append_assoc, lastWrite_concat, lastWrite_concat, ih]
    by_cases hkey : key = write.1
    · simp [hkey]
    · simp [hkey]

theorem lastWrite_flatMap {γ : Type} {items : List γ} {writesOf : γ → List (String × α)}
    {key : String} {value : α} : LastWrite (items.flatMap writesOf) key value ↔
      ∃ before item after, items = before ++ item :: after ∧ LastWrite (writesOf item) key value ∧
        ∀ later ∈ after, key ∉ (writesOf later).map Prod.fst := by
  induction items with
  | nil => simp [LastWrite]
  | cons first items ih =>
    have hlater : key ∉ (items.flatMap writesOf).map Prod.fst ↔
        ∀ later ∈ items, key ∉ (writesOf later).map Prod.fst := by
      rw [List.map_flatMap, List.mem_flatMap]
      exact ⟨fun h later hmem hkey => h ⟨later, hmem, hkey⟩,
        fun h ⟨later, hmem, hkey⟩ => h later hmem hkey⟩
    rw [List.flatMap_cons, lastWrite_append, ih, hlater]
    constructor
    · rintro (⟨before, item, after, rfl, hlast, hafter⟩ | ⟨hlast, hafter⟩)
      · exact ⟨first :: before, item, after, rfl, hlast, hafter⟩
      · exact ⟨[], first, items, rfl, hlast, hafter⟩
    · rintro ⟨before, item, after, heq, hlast, hafter⟩
      cases before with
      | nil =>
        obtain ⟨rfl, rfl⟩ := List.cons.inj heq
        exact Or.inr ⟨hlast, hafter⟩
      | cons second before =>
        obtain ⟨rfl, rfl⟩ := List.cons.inj heq
        exact Or.inl ⟨before, item, after, rfl, hlast, hafter⟩

theorem fetch_gather_eq_some_iff {writes : List (String × α)} {key : String} {value : α} :
    (gather writes).fetch key = some value ↔ LastWrite writes key value := by
  induction writes using List.reverseRecOn with
  | nil => simp [gather, fetch, LastWrite]
  | append_singleton writes write ih =>
    rw [gather_concat, fetch_put, lastWrite_concat, ← ih]
    split
    · simp [eq_comm]
    · rfl

theorem exists_lastWrite_iff {writes : List (String × α)} {key : String} :
    (∃ value, LastWrite writes key value) ↔ key ∈ writes.map Prod.fst := by
  simp only [← fetch_gather_eq_some_iff, ← Option.isSome_iff_exists]
  exact holds_iff.trans mem_names_gather

theorem lastWrite_mapValues {f : α → β} {writes : Dict α} {key : String} {value : β} :
    LastWrite (mapValues f writes) key value ↔ ∃ old, LastWrite writes key old ∧ f old = value := by
  simp only [← fetch_gather_eq_some_iff, ← mapValues_gather, fetch_mapValues,
    Option.map_eq_some_iff]

theorem fetch_gather (writes : List (String × α)) (key : String) :
    (gather writes).fetch key = (writes.filter fun w => w.1 = key).getLast?.map Prod.snd := by
  induction writes using List.reverseRecOn with
  | nil => rfl
  | append_singleton writes write ih =>
    rw [gather_concat, fetch_put, ih, List.filter_append]
    by_cases hkey : key = write.1
    · simp [hkey]
    · simp [hkey, Ne.symm hkey]

end DiffReach.Dict
