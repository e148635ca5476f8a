import DiffReach.Toml.Reader
import DiffReach.Proofs.Basic
import DiffReach.Proofs.Value

namespace DiffReach

namespace Toml

open Value

def Leaves {α : Type} (result : Value × α) : Prop :=
  result.1.Proper

variable {α : Type}

theorem ensures_changeAt {change : Value → Except Failure (Value × Option Pending)}
    (hchange : ∀ v, v.Proper → Ensures Leaves (change v)) (names : List String) {v : Value}
    (hv : v.Proper) : Ensures Leaves (changeAt change names v) := by
  induction names generalizing v with
  | nil => exact hchange v hv
  | cons name rest ih =>
    cases v with
    | object fields =>
      have hinner : ((Dict.fetch fields name).getD (.object [])).Proper := by
        cases hfetch : Dict.fetch fields name with
        | none => exact proper_empty
        | some inner => exact hv.fetch hfetch
      exact (ih hinner).bind fun result hresult => ensures_ok (hv.put hresult name)
    | _ => exact ensures_error _

theorem ensures_assign {name : String} {content : Value ⊕ Pending}
    (hcontent : ∀ v, content = .inl v → v.Proper) {table : Value} (htable : table.Proper) :
    Ensures Leaves (assign name content table) := by
  cases table with
  | object fields =>
    simp only [assign]
    split
    · exact ensures_error _
    · cases content with
      | inl v => exact ensures_ok (htable.put (hcontent v rfl) name)
      | inr pending =>
        dsimp only
        split
        · exact ensures_error _
        · exact ensures_ok htable
  | _ => exact ensures_error _

structure ReadsProper (fuel : Nat) : Prop where
  value : ∀ places strict cs, Ensures Proper (readValue fuel places strict cs)
  items : ∀ places expected parts,
    Ensures (fun vs => ∀ v ∈ vs, v.Proper) (readItems fuel places expected parts)
  entries : ∀ places lines table, table.Proper →
    Ensures Proper (readEntries fuel places lines table)
  entry : ∀ places line table, table.Proper → Ensures Leaves (readEntry fuel places line table)

variable {fuel : Nat}

theorem ensures_number? {v : List Char} {n : Value} (h : number? v = some n) : n.Proper := by
  simp only [number?] at h
  split at h
  · obtain ⟨x, -, rfl⟩ := Option.map_eq_some_iff.mp h
    exact proper_of_shape rfl
  · split at h
    · obtain ⟨x, -, rfl⟩ := Option.map_eq_some_iff.mp h
      exact proper_of_shape rfl
    · obtain ⟨x, -, rfl⟩ := Option.map_eq_some_iff.mp h
      exact proper_of_shape rfl

theorem ReadsProper.value_succ (h : ReadsProper fuel) (places : Nat) (strict : Bool)
    (cs : List Char) : Ensures Proper (readValue (fuel + 1) places strict cs) := by
  cases cs with
  | nil =>
    rw [readValue]
    exact ensures_error _
  | cons c rest =>
    rw [readValue]
    split
    · exact ensures_ok (proper_of_shape rfl)
    split
    · exact ensures_ok (proper_of_shape rfl)
    split
    · exact ensures_map fun s => proper_of_shape rfl
    split
    · refine ensures_bind fun inside => ensures_bind fun parts => ?_
      exact (h.items inside none _).bind fun items hitems => ensures_ok (proper_list hitems)
    split
    · exact ensures_bind fun inside => ensures_bind fun lines =>
        h.entries inside lines _ proper_empty
    split
    · split
      · exact ensures_ok (proper_of_shape rfl)
      · exact ensures_error _
    split
    · exact ensures_ok (proper_of_shape rfl)
    split
    · split
      · rename_i hnumber
        exact ensures_ok (ensures_number? hnumber)
      · exact ensures_error _
    · exact ensures_error _

theorem ReadsProper.items_succ (h : ReadsProper fuel) (places : Nat) (expected : Option Nat)
    (parts : List (List Char)) :
    Ensures (fun vs => ∀ v ∈ vs, v.Proper) (readItems (fuel + 1) places expected parts) := by
  cases parts with
  | nil =>
    rw [readItems]
    · exact ensures_ok (List.forall_mem_nil _)
    · exact Nat.succ_ne_zero fuel
  | cons part parts =>
    rw [readItems]
    split
    · exact h.items places expected parts
    · refine (h.value places true part).bind fun v hv => ?_
      split
      · exact ensures_error _
      · refine (h.items places _ parts).bind fun items hitems => ?_
        exact ensures_ok (List.forall_mem_cons.mpr ⟨hv, hitems⟩)

theorem ReadsProper.entries_succ (h : ReadsProper fuel) (places : Nat) (lines : List (List Char))
    {table : Value} (htable : table.Proper) :
    Ensures Proper (readEntries (fuel + 1) places lines table) := by
  cases lines with
  | nil =>
    rw [readEntries]
    · exact ensures_ok htable
    · exact Nat.succ_ne_zero fuel
  | cons line lines =>
    rw [readEntries]
    refine (h.entry places line table htable).bind fun result hresult => ?_
    dsimp only
    split
    · exact ensures_ok hresult
    · exact h.entries places lines result.1 hresult

theorem ReadsProper.entry_succ (h : ReadsProper fuel) (places : Nat) (line : List Char)
    {table : Value} (htable : table.Proper) :
    Ensures Leaves (readEntry (fuel + 1) places line table) := by
  rw [readEntry]
  refine ensures_bind fun parts => ensures_bind fun path => ?_
  refine ensures_changeAt (fun inner hinner => ensures_bind fun continues => ?_) path.tables htable
  split
  · exact ensures_assign (fun v hv => by cases hv) hinner
  · refine (h.value places parts.2.2 parts.2.1).bind fun v hv => ?_
    refine ensures_assign (fun w hw => ?_) hinner
    obtain rfl := Sum.inl.inj hw
    exact hv

theorem readsProper (fuel : Nat) : ReadsProper fuel := by
  induction fuel with
  | zero =>
    refine ⟨fun places strict cs => ?_, fun places expected parts => ?_,
      fun places lines table htable => ?_, fun places line table htable => ?_⟩
    · rw [readValue]
      exact ensures_error _
    · rw [readItems]
      exact ensures_error _
    · rw [readEntries]
      exact ensures_error _
    · rw [readEntry]
      exact ensures_error _
  | succ fuel ih =>
    exact ⟨ih.value_succ, ih.items_succ, fun places lines _ => ih.entries_succ places lines,
      fun places line _ => ih.entry_succ places line⟩

theorem ensures_changeWithin {change : Value → Except Failure (Value × α)}
    (hchange : ∀ v, v.Proper → Ensures Leaves (change v)) (steps : List Step) {v : Value}
    (hv : v.Proper) : Ensures Leaves (changeWithin change steps v) := by
  induction steps generalizing v with
  | nil =>
    rw [changeWithin]
    exact hchange v hv
  | cons step rest ih =>
    cases step with
    | name name =>
      cases v with
      | object fields =>
        have hinner : ((Dict.fetch fields name).getD .null).Proper := by
          cases hfetch : Dict.fetch fields name with
          | none => exact proper_of_shape rfl
          | some inner => exact hv.fetch hfetch
        exact (ih hinner).bind fun result hresult => ensures_ok (hv.put hresult name)
      | _ => exact ensures_error _
    | last =>
      cases v with
      | list items =>
        have hinner : (items.getLast?.getD .null).Proper := by
          cases hlast : items.getLast? with
          | none => exact proper_of_shape rfl
          | some inner => exact hv.mem (List.mem_of_getLast? hlast)
        exact (ih hinner).bind fun result hresult => ensures_ok (hv.atLast hresult)
      | _ => exact ensures_error _

theorem proper_fresh (isList isFinal : Bool) : (fresh isList isFinal).Proper := by
  rw [fresh]
  split
  · exact proper_list fun v hv => by rw [List.mem_singleton.mp hv]; exact proper_empty
  · exact proper_empty

theorem ensures_reopen (isList : Bool) (implied : List String) (name : String) {v : Value}
    (hv : v.Proper) : Ensures Leaves (reopen isList implied name v) := by
  unfold reopen
  split
  · split
    · exact ensures_error _
    · exact ensures_ok hv
  split
  · exact ensures_error _
  cases v with
  | list items =>
    refine ensures_ok (proper_list fun w hw => ?_)
    rcases List.mem_append.mp hw with hw | hw
    · exact hv.mem hw
    · rw [List.mem_singleton.mp hw]
      exact proper_empty
  | _ => exact ensures_error _

def Opened.IsProper (o : Opened) : Prop :=
  o.value.Proper

theorem ensures_enter (isList : Bool) {go : Value → Except Failure Opened}
    (hgo : ∀ v, v.Proper → Ensures Opened.IsProper (go v)) {v : Value} (hv : v.Proper) :
    Ensures Opened.IsProper (enter isList go v) := by
  unfold enter
  split
  · exact hgo v hv
  cases v with
  | object fields => exact hgo _ hv
  | list items =>
    dsimp only
    cases hlast : items.getLast? with
    | none => exact ensures_error _
    | some last =>
      refine (hgo last (hv.mem (List.mem_of_getLast? hlast))).map fun o ho => ?_
      exact hv.atLast ho
  | str s =>
    dsimp only
    split <;> exact ensures_error _
  | _ => exact ensures_error _

theorem ensures_openTable (isList : Bool) (implied : List String) (names : List String) {v : Value}
    (hv : v.Proper) : Ensures Opened.IsProper (openTable isList implied names v) := by
  induction names generalizing implied v with
  | nil =>
    rw [openTable]
    exact ensures_ok hv
  | cons name rest ih =>
    -- the induction hypothesis, for whatever tables are implied on the way
    have hgo (implied : List String) (inner : Value) (hinner : inner.Proper) :
        Ensures Opened.IsProper (openTable isList implied rest inner) := ih implied hinner
    unfold openTable
    split
    · exact ensures_error _
    cases v with
    | object fields =>
      dsimp only
      cases hfetch : Dict.fetch fields name with
      | none =>
        refine (ensures_enter isList (hgo _) (proper_fresh isList _)).bind fun o ho => ?_
        exact ensures_ok (hv.put ho name)
      | some inner =>
        have hinner : inner.Proper := hv.fetch hfetch
        have hgoOn (next : Value × List String) (hnext : Leaves next) :
            Ensures Opened.IsProper (enter isList (openTable isList next.2 rest) next.1 >>= fun o =>
              pure (o.under fields name)) :=
          (ensures_enter isList (hgo _) hnext).bind fun o ho => ensures_ok (hv.put ho name)
        dsimp only
        split
        · exact (ensures_reopen isList implied name hinner).bind hgoOn
        · exact hgoOn (inner, implied) hinner
    | list items =>
      dsimp only
      split
      · exact ensures_error _
      · rename_i fields hlast
        have hfields : (object fields).Proper := hv.mem (List.mem_of_getLast? hlast)
        have hinner : ((Dict.fetch fields name).getD (fresh isList rest.isEmpty)).Proper := by
          cases hfetch : Dict.fetch fields name with
          | none => exact proper_fresh isList _
          | some inner => exact hfields.fetch hfetch
        refine (ensures_enter isList (hgo _) hinner).bind fun o ho => ?_
        exact ensures_ok (hv.atLast (hfields.put ho name))
      · exact ensures_error _
    | str s =>
      dsimp only
      split <;> exact ensures_error _
    | _ => exact ensures_error _

namespace Reading

def IsProper (r : Reading) : Prop :=
  r.document.Proper

theorem ensures_openHeader {r : Reading} (h : r.IsProper) (line : List Char) :
    Ensures IsProper (r.openHeader line) := by
  rw [openHeader]
  refine ensures_bind fun header => ?_
  exact (ensures_openTable header.isList r.implied header.names h).bind fun o ho => ensures_ok ho

theorem ensures_readLine {r : Reading} (h : r.IsProper) (line : List Char) :
    Ensures IsProper (r.readLine line) := by
  cases line with
  | nil => exact ensures_ok h
  | cons c cs =>
    rw [readLine]
    split
    · exact ensures_openHeader h _
    split
    · split
      · exact ensures_error _
      · refine (ensures_changeWithin (fun table htable => ?_) r.steps h).bind fun result hresult =>
          ensures_ok hresult
        refine Ensures.map (P := Proper) ?_ fun table htable => htable
        exact ensures_bind fun lines => (readsProper _).entries _ lines table htable
    split
    · refine (ensures_changeWithin (fun table htable => ?_) r.steps h).bind fun result hresult =>
        ensures_ok hresult
      exact (readsProper _).entry _ _ table htable
    · exact ensures_ok h

theorem ensures_continueValue {r : Reading} (h : r.IsProper) (p : Pending) (line : List Char) :
    Ensures IsProper (r.continueValue p line) := by
  rw [continueValue]
  refine ensures_bind fun isClosed => ?_
  split
  · refine Ensures.bind ((readsProper _).value _ _ _) fun v hv => ?_
    refine (ensures_changeWithin (fun table htable => ?_) r.steps h).bind fun result hresult =>
      ensures_ok hresult
    cases table with
    | object fields => exact ensures_ok (htable.put hv p.key)
    | _ => exact ensures_error _
  · exact ensures_ok h

theorem ensures_line (r : Reading) (cs : List Char) (h : r.IsProper) :
    Ensures IsProper (r.line cs) := by
  rw [line]
  split
  · exact ensures_readLine h _
  · rename_i p _
    generalize (if p.text.elem '\n' && !p.joined then cs else Text.trim cs) = next
    change Ensures IsProper (if next.isEmpty && p.joined then .ok r else r.continueValue p next)
    split
    · exact ensures_ok h
    · exact ensures_continueValue h p next

end Reading

theorem proper_of_read {s : String} {table : Dict Value} (h : read s = .ok table) :
    (object table).Proper := by
  have hread : Ensures (fun table => (object table).Proper) (read s) := by
    refine ensures_bind fun lines => ?_
    have hstart : Reading.IsProper {} := proper_empty
    refine (ensures_foldlM Reading.ensures_line lines hstart).bind fun r hr => ?_
    rw [Reading.IsProper] at hr
    split
    · rename_i fields hdocument
      rw [hdocument] at hr
      exact ensures_ok hr
    · exact ensures_error _
  exact hread table h

end Toml

end DiffReach
