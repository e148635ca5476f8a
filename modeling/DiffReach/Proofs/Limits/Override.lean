import DiffReach.Proofs.Basic
import DiffReach.Proofs.Session
import DiffReach.Proofs.Value
import DiffReach.Limits

namespace DiffReach.Limits

theorem Key.ofName?_eq_some_iff {name : String} {key : Key} :
    Key.ofName? name = some key ↔ name = key.name := by
  constructor
  · intro h
    have hname := List.find?_some h
    exact (beq_iff_eq.mp hname).symm
  · rintro rfl
    cases key <;> decide

theorem Key.name_injective {key other : Key} (h : key.name = other.name) : key = other := by
  have hkey := Key.ofName?_eq_some_iff.mpr (Eq.refl key.name)
  rw [Key.ofName?_eq_some_iff.mpr h] at hkey
  exact (Option.some.inj hkey).symm

theorem get_set (l : Limits) (key other : Key) (v : Value) :
    (l.set key v).get other = if other = key then v else l.get other := by
  cases key <;> cases other <;> rfl

theorem set_get (l : Limits) (key : Key) : l.set key (l.get key) = l := by
  cases key <;> rfl

namespace Key

def Accepts (key : Key) (v : Value) : Prop :=
  ∃ amount, key.read v = .ok amount ∧ amount.atMostZero = false

/-- A setting that is no amount and cannot be passed over either. -/
def Stops (key : Key) (v : Value) : Prop :=
  ∃ fault, key.read v = .error fault ∧ fault.isUnreadable = false

def after (key : Key) (current v : Value) : Value :=
  match key.read v with
  | .ok amount => if amount.atMostZero then current else amount.toValue
  | .error _ => current

variable {key : Key} {v w : Value}

theorem read_toValue {amount : Amount} (h : key.read v = .ok amount) :
    key.read amount.toValue = .ok amount := by
  cases key with
  | requestTimeout =>
    obtain ⟨x, -, rfl⟩ := exists_of_map_eq_ok h
    rfl
  | _ =>
    obtain ⟨n, -, rfl⟩ := exists_of_map_eq_ok h
    rfl

theorem after_of_read {amount : Amount} (hread : key.read v = .ok amount)
    (hpositive : amount.atMostZero = false) (current : Value) :
    key.after current v = amount.toValue := by
  rw [after, hread]
  exact if_neg (by simp [hpositive])

theorem read_congr (h : v.view = w.view) : key.read v = key.read w := by
  have hshape := Value.shape_eq_of_view_eq h
  cases v with
  | list items =>
    obtain ⟨others, rfl⟩ := Value.exists_list_of_shape_eq hshape.symm
    cases key <;> rfl
  | object fields =>
    obtain ⟨others, rfl⟩ := Value.exists_object_of_shape_eq hshape.symm
    cases key <;> rfl
  | _ => rw [Value.eq_of_shape_eq_leaf hshape.symm]

theorem after_congr (h : v.view = w.view) (current : Value) :
    key.after current v = key.after current w := by
  rw [after, after, read_congr h]

theorem stops_congr (h : v.view = w.view) : key.Stops v ↔ key.Stops w := by
  rw [Stops, Stops, read_congr h]

theorem accepts_congr (h : v.view = w.view) : key.Accepts v ↔ key.Accepts w := by
  rw [Accepts, Accepts, read_congr h]

theorem after_of_not_accepts (h : ¬ key.Accepts v) (current : Value) :
    key.after current v = current := by
  rw [after]
  cases hread : key.read v with
  | error fault => rfl
  | ok amount =>
    refine if_pos ?_
    rw [← Bool.not_eq_false]
    exact fun hpositive => h ⟨amount, hread, hpositive⟩

theorem Accepts.not_stops (h : key.Accepts v) : ¬ key.Stops v := by
  rintro ⟨fault, hfault, -⟩
  obtain ⟨amount, hamount, -⟩ := h
  rw [hamount] at hfault
  cases hfault

end Key

def PassesOver (name : String) (event : Event) : Prop :=
  (∃ v kind, event = .limitUnreadable name v kind) ∨ ∃ v, event = .limitNotPositive name v

theorem override_of_unknown {name : String} (h : ∀ key : Key, name ≠ key.name) (l : Limits)
    (v : Value) : l.override name v = .ok (l, none) := by
  have hnone : Key.ofName? name = none := by
    cases hfound : Key.ofName? name with
    | none => rfl
    | some key => exact absurd (Key.ofName?_eq_some_iff.mp hfound) (h key)
  rw [override, hnone]

theorem override_of_accepts {key : Key} {v : Value} (h : key.Accepts v) (l : Limits) :
    l.override key.name v = .ok (l.set key (key.after (l.get key) v), none) := by
  obtain ⟨amount, hread, hpositive⟩ := h
  rw [override, Key.ofName?_eq_some_iff.mpr rfl, Key.after_of_read hread hpositive]
  simp [hread, hpositive]

theorem override_of_stops {key : Key} {v : Value} (h : key.Stops v) (l : Limits) :
    ∃ fault, l.override key.name v = .error fault := by
  obtain ⟨fault, hread, hfault⟩ := h
  refine ⟨fault, ?_⟩
  rw [override, Key.ofName?_eq_some_iff.mpr rfl]
  simp [hread, hfault]

theorem override_of_passed {key : Key} {v : Value} (haccepts : ¬ key.Accepts v)
    (hstops : ¬ key.Stops v) (l : Limits) :
    ∃ event, PassesOver key.name event ∧ l.override key.name v = .ok (l, some event) := by
  rw [override, Key.ofName?_eq_some_iff.mpr rfl]
  cases hread : key.read v with
  | error fault =>
    have hunreadable : fault.isUnreadable = true := by
      rw [← Bool.not_eq_false]
      exact fun hfault => hstops ⟨fault, hread, hfault⟩
    refine ⟨.limitUnreadable key.name v key.kind, Or.inl ⟨v, key.kind, rfl⟩, ?_⟩
    simp [hread, hunreadable]
  | ok amount =>
    have hzero : amount.atMostZero = true := by
      rw [← Bool.not_eq_false]
      exact fun hpositive => haccepts ⟨amount, hread, hpositive⟩
    refine ⟨.limitNotPositive key.name v, Or.inr ⟨v, rfl⟩, ?_⟩
    simp [hread, hzero]

def Readable (settings : Dict Value) : Prop :=
  ∀ (key : Key) v, settings.fetch key.name = some v → ¬ key.Stops v

def Follow (before : Limits) (settings : Dict Value) (after : Limits) : Prop :=
  ∀ key, after.get key =
    ((settings.fetch key.name).map (key.after (before.get key))).getD (before.get key)

def TellsOf (settings : Dict Value) (earlier later : List Event) : Prop :=
  ∀ event ∈ later, event ∈ earlier ∨ ∃ (key : Key) (v : Value),
    settings.fetch key.name = some v ∧ PassesOver key.name event ∧ ¬ key.Accepts v

variable {settings rest : Dict Value} {name : String} {v : Value} {network : Host.Network}

theorem follow_singleton {key : Key} (l : Limits) (v : Value) :
    Follow l [(key.name, v)] (l.set key (key.after (l.get key) v)) := by
  intro other
  rw [get_set, Dict.fetch_cons]
  by_cases hother : other = key
  · subst hother
    rw [if_pos rfl, if_pos rfl]
    rfl
  · rw [if_neg hother, if_neg fun hname => hother (Key.name_injective hname)]
    rfl

theorem Follow.cons {before middle after : Limits} (hfirst : Follow before [(name, v)] middle)
    (hrest : Follow middle rest after) (hnew : name ∉ rest.names) :
    Follow before ((name, v) :: rest) after := by
  intro key
  have hmiddle := hfirst key
  rw [Dict.fetch_cons] at hmiddle
  rw [hrest key, Dict.fetch_cons]
  by_cases hkey : key.name = name
  · have hnone : rest.fetch key.name = none := by
      rw [Dict.fetch_eq_none_iff, hkey]
      exact hnew
    rw [if_pos hkey] at hmiddle ⊢
    rw [hnone, ← hmiddle]
    rfl
  · rw [if_neg hkey] at hmiddle ⊢
    have hsame : middle.get key = before.get key := hmiddle
    rw [hsame]

theorem fetch_singleton (name : String) (v : Value) : Dict.fetch [(name, v)] name = some v := by
  rw [Dict.fetch_cons, if_pos rfl]

theorem fetch_cons_of_singleton {key : String} {w : Value}
    (h : Dict.fetch [(name, v)] key = some w) :
    Dict.fetch ((name, v) :: rest) key = some w := by
  rw [Dict.fetch_cons] at h ⊢
  split at h
  · rename_i hname
    rw [if_pos hname, h]
  · cases h

theorem fetch_cons_of_fetch {key : String} {w : Value} (h : rest.fetch key = some w)
    (hnew : name ∉ rest.names) : Dict.fetch ((name, v) :: rest) key = some w := by
  have hne : key ≠ name := by
    rintro rfl
    rw [Dict.fetch_eq_none_iff.mpr hnew] at h
    cases h
  rw [Dict.fetch_cons, if_neg hne, h]

theorem Readable.head (h : Readable ((name, v) :: rest)) : Readable [(name, v)] :=
  fun key w hw => h key w (fetch_cons_of_singleton hw)

theorem Readable.tail (h : Readable ((name, v) :: rest)) (hnew : name ∉ rest.names) :
    Readable rest :=
  fun key w hw => h key w (fetch_cons_of_fetch hw hnew)

theorem TellsOf.cons {earlier events later : List Event} (hfirst : TellsOf [(name, v)] [] events)
    (hrest : TellsOf rest (earlier ++ events) later) (hnew : name ∉ rest.names) :
    TellsOf ((name, v) :: rest) earlier later := by
  intro event hevent
  rcases hrest event hevent with hbefore | ⟨key, w, hw, htells⟩
  · rcases List.mem_append.mp hbefore with hearlier | hnow
    · exact Or.inl hearlier
    · obtain ⟨key, w, hw, htells⟩ := (hfirst event hnow).resolve_left List.not_mem_nil
      exact Or.inr ⟨key, w, fetch_cons_of_singleton hw, htells⟩
  · exact Or.inr ⟨key, w, fetch_cons_of_fetch hw hnew, htells⟩

theorem exists_override (h : Readable [(name, v)]) (l : Limits) : ∃ after event,
    l.override name v = .ok (after, event) ∧ Follow l [(name, v)] after ∧
      TellsOf [(name, v)] [] event.toList := by
  by_cases hknown : ∃ key : Key, name = key.name
  · obtain ⟨key, rfl⟩ := hknown
    have hfollow : Follow l [(key.name, v)] _ := follow_singleton l v
    by_cases haccepts : key.Accepts v
    · exact ⟨_, none, override_of_accepts haccepts l, hfollow, List.forall_mem_nil _⟩
    · have hstops := h key v (fetch_singleton key.name v)
      obtain ⟨event, hpasses, hoverride⟩ := override_of_passed haccepts hstops l
      rw [Key.after_of_not_accepts haccepts, set_get] at hfollow
      refine ⟨l, some event, hoverride, hfollow, List.forall_mem_singleton.mpr ?_⟩
      exact Or.inr ⟨key, v, fetch_singleton key.name v, hpasses, haccepts⟩
  · have hunknown : ∀ key : Key, name ≠ key.name := not_exists.mp hknown
    refine ⟨l, none, override_of_unknown hunknown l v, fun key => ?_, List.forall_mem_nil _⟩
    rw [Dict.fetch_cons, if_neg (hunknown key).symm]
    rfl

theorem run_overrideAll_cons {l middle : Limits} {event : Option Event}
    (h : l.override name v = .ok (middle, event)) (network : Host.Network) (journal : Journal) :
    (overrideAll l ((name, v) :: rest)).run network journal = (overrideAll middle rest).run network
      { journal with events := journal.events ++ event.toList } := by
  rw [overrideAll, h, Session.run_bind_of_ok (Session.run_settle_ok _ network journal)]
  cases event with
  | none =>
    rw [Option.toList_none, List.append_nil]
  | some event => rfl

theorem run_overrideAll (hnames : settings.names.Nodup) (hreadable : Readable settings)
    (l : Limits) (network : Host.Network) (journal : Journal) : ∃ after later,
      (overrideAll l settings).run network journal = (.ok after, later) ∧
        Follow l settings after ∧ TellsOf settings journal.events later.events := by
  -- no later setting has the name of the first one, so what that one left stays
  induction settings generalizing l journal with
  | nil => exact ⟨l, journal, rfl, fun key => rfl, fun event h => Or.inl h⟩
  | cons entry rest ih =>
    obtain ⟨name, v⟩ := entry
    obtain ⟨hnew, hrest⟩ := List.nodup_cons.mp hnames
    obtain ⟨middle, event, hoverride, hmiddle, hevent⟩ := exists_override hreadable.head l
    obtain ⟨after, later, hrun, hafter, hlater⟩ := ih hrest (hreadable.tail hnew) middle
      { journal with events := journal.events ++ event.toList }
    refine ⟨after, later, ?_, hmiddle.cons hafter hnew, ?_⟩
    · rw [run_overrideAll_cons hoverride, hrun]
    · exact hevent.cons hlater hnew

theorem readable_of_run {l after : Limits} {journal : Journal}
    (h : ((overrideAll l settings).run network journal).1 = .ok after) : Readable settings := by
  induction settings generalizing l journal with
  | nil => exact fun key v hv => by cases hv
  | cons entry rest ih =>
    obtain ⟨name, v⟩ := entry
    obtain ⟨⟨middle, event⟩, later, hfirst, hrest⟩ := Session.exists_of_run_bind h
    have hoverride := (Session.eq_of_run_settle hfirst).1
    rw [run_overrideAll_cons hoverride] at h
    intro key w hw hstops
    rw [Dict.fetch_cons] at hw
    split at hw
    · rename_i hname
      obtain rfl := Option.some.inj hw
      obtain ⟨fault, hfault⟩ := override_of_stops hstops l
      rw [hname, hoverride] at hfault
      cases hfault
    · exact ih h key w hw hstops

theorem Follow.congr {before after : Limits} {other : Dict Value}
    (h : Follow before settings after) (halike : settings.Alike other) :
    Follow before other after := by
  intro key
  rw [h key]
  cases hfetch : settings.fetch key.name with
  | none => rw [halike.fetch_eq_none hfetch]
  | some v =>
    obtain ⟨w, hw, hview⟩ := halike.exists_fetch hfetch
    rw [hw, Option.map_some, Option.map_some, Key.after_congr hview]

theorem Readable.congr {other : Dict Value} (h : Readable settings)
    (halike : settings.Alike other) :
    Readable other := by
  intro key w hw
  obtain ⟨v, hv, hview⟩ := halike.symm.exists_fetch hw
  rw [← Key.stops_congr hview]
  exact h key v hv

theorem Readable.put {key : Key} (h : Readable settings) (hv : key.Accepts v) :
    Readable (settings.put key.name v) := by
  intro other w hw
  rw [Dict.fetch_put] at hw
  split at hw
  · rename_i hname
    obtain rfl := Key.name_injective hname
    obtain rfl := Option.some.inj hw
    exact hv.not_stops
  · exact h other w hw

theorem follow_of_run {l after : Limits} {journal : Journal} (hnames : settings.names.Nodup)
    (h : ((overrideAll l settings).run network journal).1 = .ok after) :
    Follow l settings after := by
  obtain ⟨found, later, hrun, hfollow, -⟩ :=
    run_overrideAll hnames (readable_of_run h) l network journal
  rw [hrun] at h
  obtain rfl := Except.ok.inj h
  exact hfollow

theorem PassesOver.unique {other : String} {event : Event} (h : PassesOver name event)
    (hother : PassesOver other event) : name = other := by
  rcases h with ⟨v, kind, rfl⟩ | ⟨v, rfl⟩
  · rcases hother with ⟨w, other, h⟩ | ⟨w, h⟩
    · exact (Event.limitUnreadable.inj h).1
    · cases h
  · rcases hother with ⟨w, other, h⟩ | ⟨w, h⟩
    · cases h
    · exact (Event.limitNotPositive.inj h).1

theorem run_ofSettings_put {key : Key} {amount : Amount} {changed : Dict Value} {l : Limits}
    {journal : Journal} (hread : key.read v = .ok amount) (hpositive : amount.atMostZero = false)
    (hnames : settings.names.Nodup) (hchanged : changed.names.Nodup)
    (halike : changed.Alike (settings.put key.name amount.toValue))
    (hl : ((ofSettings settings).run network journal).1 = .ok l) :
    ∃ after later, (ofSettings changed).run network ⟨[], []⟩ = (.ok after, later) ∧
      after.get key = amount.toValue ∧ (∀ other, other ≠ key → after.get other = l.get other) ∧
      ∀ event ∈ later.events, ¬ PassesOver key.name event := by
  have haccepts : key.Accepts amount.toValue := ⟨amount, Key.read_toValue hread, hpositive⟩
  have hreadable : Readable changed := ((readable_of_run hl).put haccepts).congr halike.symm
  obtain ⟨after, later, hrun, hfollow, htells⟩ :=
    run_overrideAll hchanged hreadable {} network ⟨[], []⟩
  have hafter := hfollow.congr halike
  have hbefore := follow_of_run hnames hl
  refine ⟨after, later, hrun, ?_, fun other hother => ?_, fun event hevent hpasses => ?_⟩
  · rw [hafter key, Dict.fetch_put, if_pos rfl]
    exact Key.after_of_read (Key.read_toValue hread) hpositive _
  · rw [hafter other, hbefore other, Dict.fetch_put,
      if_neg fun hname => hother (Key.name_injective hname)]
  · obtain ⟨other, w, hw, hother, hrejects⟩ :=
      (htells event hevent).resolve_left List.not_mem_nil
    obtain rfl := Key.name_injective (hother.unique hpasses)
    obtain ⟨u, hu, hview⟩ := halike.exists_fetch hw
    rw [Dict.fetch_put, if_pos rfl] at hu
    obtain rfl := Option.some.inj hu
    exact hrejects ((Key.accepts_congr hview).mp haccepts)

end DiffReach.Limits
