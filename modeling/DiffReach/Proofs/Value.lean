import DiffReach.Value
import DiffReach.Proofs.Dict

namespace DiffReach

namespace Value

inductive Turn where
  | name (s : String)
  | item (i : Nat)

def walk : Value → List Turn → Option Value
  | v, [] => some v
  | .object fields, .name s :: rest => (Dict.fetch fields s).bind fun v => walk v rest
  | .list items, .item i :: rest => items[i]?.bind fun v => walk v rest
  | _, _ :: _ => none

/-- What a value shows of itself without a turn into it. -/
inductive Shape where
  | leaf (v : Value)
  | items (count : Nat)
  | table

def shape : Value → Shape
  | .list items => .items items.length
  | .object _ => .table
  | v => .leaf v

def view (v : Value) (way : List Turn) : Option Shape :=
  (v.walk way).map shape

theorem view_name (fields : Dict Value) (s : String) (rest : List Turn) :
    (object fields).view (.name s :: rest) = (fields.fetch s).bind fun v => v.view rest := by
  rw [view, walk]
  cases fields.fetch s <;> rfl

theorem shape_eq_of_view_eq {v w : Value} (h : v.view = w.view) : v.shape = w.shape :=
  Option.some.inj (congrFun h [])

theorem eq_of_shape_eq_leaf {v w : Value} (h : w.shape = .leaf v) : w = v := by
  cases w with
  | list items => cases h
  | object fields => cases h
  | _ => exact Shape.leaf.inj h

theorem exists_object_of_shape_eq {w : Value} (h : w.shape = .table) :
    ∃ fields, w = .object fields := by
  cases w with
  | object fields => exact ⟨fields, rfl⟩
  | _ => cases h

theorem exists_list_of_shape_eq {w : Value} {count : Nat} (h : w.shape = .items count) :
    ∃ items, w = .list items := by
  cases w with
  | list items => exact ⟨items, rfl⟩
  | _ => cases h

theorem induct {P : Value → Prop} (leaf : ∀ v, v.shape = .leaf v → P v)
    (list : ∀ items, (∀ v ∈ items, P v) → P (.list items))
    (object : ∀ fields : Dict Value, (∀ entry ∈ fields, P entry.2) → P (.object fields))
    (v : Value) : P v := by
  refine @Value.rec P (fun items => ∀ v ∈ items, P v) (fun fields => ∀ entry ∈ fields, P entry.2)
    (fun entry => P entry.2) (leaf _ rfl) (fun _ => leaf _ rfl) (fun _ => leaf _ rfl)
    (fun _ => leaf _ rfl) (fun _ => leaf _ rfl) (fun _ => leaf _ rfl) (fun _ => leaf _ rfl)
    list object
    (List.forall_mem_nil _) (fun v items hv hitems => ?_) (List.forall_mem_nil _)
    (fun entry fields hentry hfields => ?_) (fun _ _ hv => hv) v
  · exact List.forall_mem_cons.mpr ⟨hv, hitems⟩
  · exact List.forall_mem_cons.mpr ⟨hentry, hfields⟩

/-- No table that is met on a way into a value has a key twice. -/
def Proper (v : Value) : Prop :=
  ∀ way fields, v.walk way = some (.object fields) → (Dict.names fields).Nodup

theorem proper_object {fields : Dict Value} (hnames : fields.names.Nodup)
    (hfields : ∀ name v, fields.fetch name = some v → v.Proper) : (object fields).Proper := by
  intro way found hfound
  rcases way with _ | ⟨s | i, rest⟩
  · cases hfound
    exact hnames
  · obtain ⟨v, hv, hrest⟩ := Option.bind_eq_some_iff.mp hfound
    exact hfields s v hv rest found hrest
  · cases hfound

theorem Proper.nodup {fields : Dict Value} (h : (object fields).Proper) : fields.names.Nodup :=
  h [] fields rfl

theorem Proper.fetch {fields : Dict Value} (h : (object fields).Proper) {name : String} {v : Value}
    (hv : fields.fetch name = some v) : v.Proper := by
  intro way found hfound
  refine h (.name name :: way) found ?_
  rw [walk, hv]
  exact hfound

theorem proper_empty : (object []).Proper :=
  proper_object List.nodup_nil fun _ _ h => by cases h

theorem Proper.put {fields : Dict Value} (h : (object fields).Proper) {v : Value} (hv : v.Proper)
    (name : String) : (object (Dict.put fields name v)).Proper := by
  refine proper_object (Dict.nodup_put h.nodup name v) fun other w hw => ?_
  rw [Dict.fetch_put] at hw
  split at hw
  · obtain rfl := Option.some.inj hw
    exact hv
  · exact h.fetch hw

theorem proper_list {items : List Value} (h : ∀ v ∈ items, v.Proper) : (list items).Proper := by
  intro way found hfound
  rcases way with _ | ⟨s | i, rest⟩
  · cases hfound
  · cases hfound
  · obtain ⟨v, hv, hrest⟩ := Option.bind_eq_some_iff.mp hfound
    exact h v (List.mem_of_getElem? hv) rest found hrest

theorem Proper.mem {items : List Value} (h : (list items).Proper) {v : Value} (hv : v ∈ items) :
    v.Proper := by
  obtain ⟨i, hi⟩ := List.mem_iff_getElem?.mp hv
  intro way found hfound
  refine h (.item i :: way) found ?_
  rw [walk, hi]
  exact hfound

theorem Proper.atLast {items : List Value} (h : (list items).Proper) {v : Value} (hv : v.Proper) :
    (list (items.dropLast ++ [v])).Proper := by
  refine proper_list fun w hw => ?_
  rcases List.mem_append.mp hw with hw | hw
  · exact h.mem ((List.dropLast_sublist items).subset hw)
  · obtain rfl := List.mem_singleton.mp hw
    exact hv

theorem walk_cons_of_shape {v w : Value} (h : v.shape = .leaf w) (turn : Turn) (rest : List Turn) :
    v.walk (turn :: rest) = none := by
  cases v with
  | list items => cases h
  | object fields => cases h
  | _ => cases turn <;> rfl

theorem proper_of_shape {v w : Value} (h : v.shape = .leaf w) : v.Proper := by
  intro way found hfound
  cases way with
  | nil =>
    obtain rfl := Option.some.inj hfound
    cases h
  | cons turn rest =>
    rw [walk_cons_of_shape h] at hfound
    cases hfound

end Value

open Value

/-- Tables that differ in the order of keys at most, here and further inside. -/
def Dict.Alike (d e : Dict Value) : Prop :=
  (Value.object d).view = (Value.object e).view

namespace Dict

variable {d e f : Dict Value} {key : String} {v w : Value}

theorem alike_iff : d.Alike e ↔ ∀ key, (d.fetch key).map view = (e.fetch key).map view := by
  constructor
  · intro h key
    -- a way through the key sees the value behind it, and the empty way that there is one
    have hways (rest : List Turn) :
        ((d.fetch key).bind fun v => v.view rest) = (e.fetch key).bind fun v => v.view rest := by
      rw [← view_name, ← view_name]
      exact congrFun h _
    cases hd : d.fetch key with
    | none =>
      cases he : e.fetch key with
      | none => rfl
      | some w =>
        have hnil := hways []
        rw [hd, he] at hnil
        cases hnil
    | some v =>
      cases he : e.fetch key with
      | none =>
        have hnil := hways []
        rw [hd, he] at hnil
        cases hnil
      | some w =>
        rw [hd, he] at hways
        exact congrArg some (funext hways)
  · intro h
    funext way
    rcases way with _ | ⟨s | i, rest⟩
    · rfl
    · have hs := h s
      rw [view_name, view_name]
      cases hd : d.fetch s with
      | none =>
        rw [hd, Option.map_none, eq_comm, Option.map_eq_none_iff] at hs
        rw [hs]
      | some v =>
        rw [hd, Option.map_some, eq_comm, Option.map_eq_some_iff] at hs
        obtain ⟨w, hw, hview⟩ := hs
        rw [hw]
        exact congrFun hview.symm rest
    · rfl

theorem Alike.refl (d : Dict Value) : d.Alike d :=
  rfl

theorem Alike.symm (h : d.Alike e) : e.Alike d :=
  Eq.symm h

theorem Alike.trans (h : d.Alike e) (hf : e.Alike f) : d.Alike f :=
  Eq.trans h hf

theorem Alike.put (h : d.Alike e) (hview : v.view = w.view) (key : String) :
    (d.put key v).Alike (e.put key w) := by
  rw [alike_iff] at h ⊢
  intro name
  rw [fetch_put, fetch_put]
  split
  · exact congrArg some hview
  · exact h name

theorem Alike.exists_fetch (h : d.Alike e) (hd : d.fetch key = some v) :
    ∃ w, e.fetch key = some w ∧ w.view = v.view := by
  have hkey := alike_iff.mp h key
  rw [hd, Option.map_some, eq_comm, Option.map_eq_some_iff] at hkey
  exact hkey

theorem Alike.fetch_eq_none (h : d.Alike e) (hd : d.fetch key = none) : e.fetch key = none := by
  have hkey := alike_iff.mp h key
  rw [hd, Option.map_none, eq_comm, Option.map_eq_none_iff] at hkey
  exact hkey

end Dict

namespace Value

mutual

def isAlike : Value → Value → Bool
  | .null, .null => true
  | .bool a, .bool b => a == b
  | .int m, .int n => m == n
  | .float x, .float y => x == y
  | .str s, .str t => s == t
  | .torn s, .torn t => s == t
  | .moment m, .moment n => m == n
  | .list xs, .list ys => areAlike xs ys
  | .object d, .object e => haveAlike d e && e.all fun entry => Dict.holds d entry.1
  | _, _ => false

def areAlike : List Value → List Value → Bool
  | [], [] => true
  | x :: xs, y :: ys => isAlike x y && areAlike xs ys
  | _, _ => false

def haveAlike : List (String × Value) → List (String × Value) → Bool
  | [], _ => true
  | (name, v) :: rest, e => ((Dict.fetch e name).map (isAlike v)).getD false && haveAlike rest e

end

theorem view_list_congr {xs ys : List Value} (h : xs.map view = ys.map view) :
    (list xs).view = (list ys).view := by
  have hlength : xs.length = ys.length := by simpa using congrArg List.length h
  funext way
  rcases way with _ | ⟨s | i, rest⟩
  · exact congrArg (fun count => some (Shape.items count)) hlength
  · rfl
  · have hitem : xs[i]?.map view = ys[i]?.map view := by
      rw [← List.getElem?_map, ← List.getElem?_map, h]
    change (xs[i]?.bind fun v => v.walk rest).map shape =
      (ys[i]?.bind fun v => v.walk rest).map shape
    cases hx : xs[i]? with
    | none =>
      rw [hx, Option.map_none, eq_comm, Option.map_eq_none_iff] at hitem
      rw [hitem]
    | some v =>
      rw [hx, Option.map_some, eq_comm, Option.map_eq_some_iff] at hitem
      obtain ⟨w, hw, hview⟩ := hitem
      rw [hw]
      exact congrFun hview.symm rest

def Checked (v : Value) : Prop :=
  ∀ w, v.isAlike w = true → v.view = w.view

theorem map_view_of_areAlike {xs ys : List Value} (hxs : ∀ x ∈ xs, x.Checked)
    (h : areAlike xs ys = true) : xs.map view = ys.map view := by
  induction xs generalizing ys with
  | nil =>
    cases ys with
    | nil => rfl
    | cons y ys => simp [areAlike] at h
  | cons x xs ih =>
    obtain ⟨hx, hrest⟩ := List.forall_mem_cons.mp hxs
    cases ys with
    | nil => simp [areAlike] at h
    | cons y ys =>
      simp only [areAlike, Bool.and_eq_true] at h
      rw [List.map_cons, List.map_cons, hx y h.1, ih hrest h.2]

theorem fetch_of_haveAlike {d e : Dict Value} (hd : ∀ entry ∈ d, entry.2.Checked)
    (h : haveAlike d e = true) {key : String} {v : Value} (hv : d.fetch key = some v) :
    (e.fetch key).map view = some v.view := by
  induction d with
  | nil => cases hv
  | cons entry rest ih =>
    obtain ⟨name, u⟩ := entry
    obtain ⟨hu, hrest⟩ := List.forall_mem_cons.mp hd
    simp only [haveAlike, Bool.and_eq_true] at h
    rw [Dict.fetch_cons] at hv
    split at hv
    · rename_i hname
      obtain rfl := Option.some.inj hv
      rw [hname]
      cases he : e.fetch name with
      | none => simp [he] at h
      | some w =>
        rw [he] at h
        exact congrArg some (hu w h.1).symm
    · exact ih hrest h.2 hv

theorem view_object_of_isAlike {d e : Dict Value} (hd : ∀ entry ∈ d, entry.2.Checked)
    (h : (object d).isAlike (object e) = true) : (object d).view = (object e).view := by
  simp only [isAlike, Bool.and_eq_true, List.all_eq_true] at h
  refine Dict.alike_iff.mpr fun key => ?_
  cases hfetch : d.fetch key with
  | some v => exact (fetch_of_haveAlike hd h.1 hfetch).symm
  | none =>
    cases he : e.fetch key with
    | none => rfl
    | some w =>
      have hholds := Dict.holds_iff.mp (h.2 _ (Dict.mem_of_fetch he))
      exact absurd hholds (Dict.fetch_eq_none_iff.mp hfetch)

theorem checked (v : Value) : v.Checked := by
  induction v using induct with
  | leaf v hv =>
    intro w h
    cases v with
    | list xs => cases hv
    | object d => cases hv
    | _ => cases w <;> simp_all [isAlike]
  | list xs ih =>
    intro w h
    cases w with
    | list ys => exact view_list_congr (map_view_of_areAlike ih (by simpa [isAlike] using h))
    | _ => simp [isAlike] at h
  | object d ih =>
    intro w h
    cases w with
    | object e => exact view_object_of_isAlike ih h
    | _ => simp [isAlike] at h

end Value

end DiffReach
