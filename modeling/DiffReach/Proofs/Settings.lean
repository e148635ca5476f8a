import DiffReach.Settings
import DiffReach.Proofs.Limits.Override
import DiffReach.Proofs.Toml.Reader

namespace DiffReach

namespace Settings.Format

def IsProper (format : Format) : Prop :=
  ∀ text table, format.read text = .ok table → (Value.object table).Proper

theorem isProper_toml : toml.IsProper :=
  fun _ _ => Toml.proper_of_read

/-- The text of a table is read as that table, in which the keys may stand in another order. -/
def Inverts (format : Format) (table : Dict Value) : Prop :=
  ∃ text back, format.render table = .ok text ∧
    format.read (String.ofList (Text.unifyNewlines text.toList)) = .ok back ∧ back.Alike table

def inverts? (format : Format) (table : Dict Value) : Bool :=
  match format.render table with
  | .error _ => false
  | .ok text =>
      match format.read (String.ofList (Text.unifyNewlines text.toList)) with
      | .error _ => false
      | .ok back => (Value.object back).isAlike (.object table)

theorem inverts_of_inverts? {format : Format} {table : Dict Value}
    (h : format.inverts? table = true) : format.Inverts table := by
  rw [inverts?] at h
  split at h
  · cases h
  · rename_i text htext
    split at h
    · cases h
    · rename_i back hback
      exact ⟨text, back, htext, hback, Value.checked _ _ h⟩

end Settings.Format

theorem Entry.text_ofText (s : String) :
    (Entry.ofText s).text = .ok (String.ofList (Text.unifyNewlines s.toList)) := by
  have hdecode : String.fromUTF8? s.toUTF8 = some s := dif_pos s.isValidUTF8
  simp only [Entry.ofText, Entry.text, hdecode]

namespace Settings

/-- The settings of the files, where reading them reports nothing. -/
def Reads (format : Format) (files : Files) (table : Dict Value) : Prop :=
  ∀ network journal, (load files format).run network journal = (.ok table, journal)

variable {format : Format} {files : Files} {table other : Dict Value} {name : String}

theorem reads_of_entry {entry : Entry} {text : String} (h : files.fetch fileName = some entry)
    (htext : entry.text = .ok text) (hread : format.read text = .ok table) :
    Reads format files table := by
  intro network journal
  rw [load, h]
  cases entry with
  | directory => cases htext
  | file bytes =>
    dsimp only
    rw [htext, Session.run_bind_of_ok (Session.run_settle_ok text network journal), hread]
    rfl

theorem Reads.cases (h : Reads format files table) :
    (files.fetch fileName = none ∧ table = []) ∨
      ∃ bytes text, files.fetch fileName = some (.file bytes) ∧ format.read text = .ok table := by
  have hrun := h (fun _ _ => .breakdown .connection "") ⟨[], []⟩
  rw [load] at hrun
  split at hrun
  · rename_i hfile
    cases hrun
    exact Or.inl ⟨hfile, rfl⟩
  · cases hrun
  · rename_i entry hdirectory hfile
    obtain ⟨text, later, hsettle, hrest⟩ := Session.exists_run_of_run_bind hrun
    obtain ⟨-, rfl⟩ := Session.eq_of_run_settle hsettle
    cases entry with
    | directory => exact absurd rfl hdirectory
    | file bytes =>
      split at hrest
      · rename_i hread
        cases hrest
        exact Or.inr ⟨bytes, text, hfile, hread⟩
      · cases hrest
      · cases hrest

theorem Reads.proper (h : Reads format files table) (hproper : format.IsProper) :
    (Value.object table).Proper := by
  rcases h.cases with ⟨-, rfl⟩ | ⟨bytes, text, -, hread⟩
  · exact Value.proper_empty
  · exact hproper text table hread

def current? (format : Format) (files : Files) : Option (Dict Value) :=
  ((load files format).run (fun _ _ => .breakdown .connection "") ⟨[], []⟩).1.toOption

theorem Reads.current? (h : Reads format files table) :
    Settings.current? format files = some table := by
  rw [Settings.current?, h]
  rfl

def HasTable (table : Dict Value) (name : String) : Prop :=
  ∀ v, table.fetch name = some v → ∃ fields, v = .object fields

theorem hasTable_of_isTable (h : (table.fetch name).all Toml.isTable = true) :
    HasTable table name := by
  intro v hv
  rw [hv, Option.all_some] at h
  cases v with
  | object fields => exact ⟨fields, rfl⟩
  | _ => cases h

def tableIn (table : Dict Value) (name : String) : Dict Value :=
  match table.fetch name with
  | some (.object fields) => fields
  | _ => []

structure Assignment where
  table : String
  key : String
  value : Value

def update (table : Dict Value) (a : Assignment) : Dict Value :=
  table.put a.table (.object ((tableIn table a.table).put a.key a.value))

theorem tableIn_of_fetch {fields : Dict Value} (h : table.fetch name = some (.object fields)) :
    tableIn table name = fields := by
  rw [tableIn, h]

theorem tableIn_of_none (h : table.fetch name = none) : tableIn table name = [] := by
  rw [tableIn, h]

theorem Reads.nodup_tableIn (h : Reads format files table) (hproper : format.IsProper) :
    (tableIn table name).names.Nodup := by
  rw [tableIn]
  split
  · rename_i fields hfetch
    exact ((h.proper hproper).fetch hfetch).nodup
  · exact List.nodup_nil

theorem HasTable.cases (h : HasTable table name) :
    table.fetch name = none ∨ table.fetch name = some (.object (tableIn table name)) := by
  cases hfetch : table.fetch name with
  | none => exact Or.inl rfl
  | some v =>
    obtain ⟨fields, rfl⟩ := h v hfetch
    rw [tableIn_of_fetch hfetch]
    exact Or.inr rfl

theorem HasTable.congr (h : HasTable table name) (halike : table.Alike other) :
    HasTable other name := by
  intro w hw
  obtain ⟨v, hv, hview⟩ := halike.symm.exists_fetch hw
  obtain ⟨fields, rfl⟩ := h v hv
  exact Value.exists_object_of_shape_eq (Value.shape_eq_of_view_eq hview).symm

theorem HasTable.update (h : HasTable table name) (a : Assignment) :
    HasTable (update table a) name := by
  intro v hv
  rw [Settings.update, Dict.fetch_put] at hv
  split at hv
  · obtain rfl := Option.some.inj hv
    exact ⟨_, rfl⟩
  · exact h v hv

theorem tableIn_alike (h : HasTable table name) (halike : table.Alike other) :
    (tableIn table name).Alike (tableIn other name) := by
  rcases h.cases with hnone | hsome
  · rw [tableIn_of_none hnone, tableIn_of_none (halike.fetch_eq_none hnone)]
    exact Dict.Alike.refl []
  · obtain ⟨w, hw, hview⟩ := halike.exists_fetch hsome
    obtain ⟨fields, rfl⟩ :=
      Value.exists_object_of_shape_eq (Value.shape_eq_of_view_eq hview)
    rw [tableIn_of_fetch hw]
    exact hview.symm

theorem update_alike {a : Assignment} (h : HasTable table a.table) (halike : table.Alike other) :
    (update table a).Alike (update other a) :=
  halike.put ((tableIn_alike h halike).put rfl a.key) a.table

theorem write_eq {a : Assignment} (h : HasTable table a.table) :
    write table a.table a.key a.value = .ok (update table a) := by
  rw [write, update]
  rcases h.cases with hnone | hsome
  · rw [hnone, tableIn_of_none hnone]
    rfl
  · rw [hsome]

theorem run_save {a : Assignment} (hreads : Reads format files table)
    (htable : HasTable table a.table) (hinverts : format.Inverts (update table a)) :
    ∃ written back,
      (∀ network journal, (save files a.table a.key a.value format).run network journal =
        (.ok ⟨.ok true, written⟩, journal)) ∧
      Reads format written back ∧ back.Alike (update table a) := by
  obtain ⟨text, back, hrender, hread, halike⟩ := hinverts
  -- what stands in the file now does not matter, only that the file is no directory
  have hstored : (files.put fileName (.ofText text)).fetch fileName = some (.ofText text) := by
    rw [Dict.fetch_put, if_pos rfl]
  refine ⟨files.put fileName (.ofText text), back, fun network journal => ?_,
    reads_of_entry hstored (Entry.text_ofText text) hread, halike⟩
  have hstore : (store files (update table a) format).run network journal =
      (.ok ⟨.ok true, files.put fileName (.ofText text)⟩, journal) := by
    rw [store, hrender]
    rcases hreads.cases with ⟨hfile, -⟩ | ⟨bytes, -, hfile, -⟩
    · rw [hfile]
      rfl
    · rw [hfile]
      rfl
  rw [save, Session.run_bind_of_ok (hreads network journal), write_eq htable,
    Session.run_bind_of_ok (Session.run_settle_ok _ network journal), hstore]

def setting (table : Dict Value) (name key : String) : Option Value :=
  (tableIn table name).fetch key

theorem tableIn_update (table : Dict Value) (a : Assignment) (name : String) :
    tableIn (update table a) name =
      if name = a.table then (tableIn table name).put a.key a.value else tableIn table name := by
  rw [update]
  split
  · rename_i hname
    subst hname
    refine tableIn_of_fetch ?_
    rw [Dict.fetch_put, if_pos rfl]
  · rename_i hname
    simp only [tableIn, Dict.fetch_put, if_neg hname]

theorem setting_update (table : Dict Value) (a : Assignment) (name key : String) :
    setting (update table a) name key =
      if a.table = name ∧ a.key = key then some a.value else setting table name key := by
  rw [setting, tableIn_update]
  by_cases hname : name = a.table
  · rw [if_pos hname, Dict.fetch_put]
    by_cases hkey : key = a.key
    · rw [if_pos hkey, if_pos ⟨hname.symm, hkey.symm⟩]
    · rw [if_neg hkey, if_neg fun h => hkey h.2.symm, setting]
  · rw [if_neg hname, if_neg fun h => hname h.1.symm, setting]

def lastValue? (as : List Assignment) (name key : String) : Option Value :=
  (as.reverse.find? fun a => a.table = name ∧ a.key = key).map Assignment.value

theorem setting_foldl_update (as : List Assignment) (table : Dict Value) (name key : String) :
    setting (as.foldl update table) name key =
      (lastValue? as name key).or (setting table name key) := by
  induction as using List.reverseRecOn with
  | nil => rfl
  | append_singleton as a ih =>
    rw [List.foldl_append, List.foldl_cons, List.foldl_nil, setting_update, ih, lastValue?,
      lastValue?, List.reverse_append, List.reverse_singleton, List.singleton_append]
    split
    · rename_i hlast
      rw [List.find?_cons_of_pos (by simpa using hlast)]
      rfl
    · rename_i hlast
      rw [List.find?_cons_of_neg (by simpa using hlast)]

theorem fetch_foldl_update {as : List Assignment} (h : ∀ a ∈ as, a.table ≠ name)
    (table : Dict Value) : (as.foldl update table).fetch name = table.fetch name := by
  induction as generalizing table with
  | nil => rfl
  | cons a as ih =>
    obtain ⟨ha, has⟩ := List.forall_mem_cons.mp h
    rw [List.foldl_cons, ih has, update, Dict.fetch_put, if_neg ha.symm]

theorem run_limits (hreads : Reads format files table) (htable : HasTable table "limits")
    (network : Host.Network) (journal : Journal) : (limits files format).run network journal =
      (Limits.ofSettings (tableIn table "limits")).run network journal := by
  have hload : (loadLimits files format).run network journal =
      (.ok (tableIn table "limits"), journal) := by
    rw [loadLimits, loadTable, Session.run_bind_of_ok (hreads network journal)]
    rcases htable.cases with hnone | hsome
    · rw [hnone, tableIn_of_none hnone]
      rfl
    · rw [hsome]
      rfl
  rw [limits, Session.run_bind_of_ok hload]

theorem run_limits_update {key : Limits.Key} {v : Value} {amount : Limits.Amount}
    {written : Files} {back : Dict Value} {before : Limits} {network : Host.Network}
    {journal : Journal} (hproper : format.IsProper) (hreads : Reads format files table)
    (htable : HasTable table "limits") (hback : Reads format written back)
    (halike : back.Alike (update table ⟨"limits", key.name, amount.toValue⟩))
    (hread : key.read v = .ok amount) (hpositive : amount.atMostZero = false)
    (hbefore : ((limits files format).run network journal).1 = .ok before) :
    ∃ after later, (limits written format).run network ⟨[], []⟩ = (.ok after, later) ∧
      after.get key = amount.toValue ∧
      (∀ other, other ≠ key → after.get other = before.get other) ∧
      ∀ event ∈ later.events, ¬ Limits.PassesOver key.name event := by
  have htableBack := (htable.update ⟨"limits", key.name, amount.toValue⟩).congr halike.symm
  have hchanged := tableIn_alike htableBack halike
  rw [tableIn_update, if_pos rfl] at hchanged
  rw [run_limits hreads htable] at hbefore
  rw [run_limits hback htableBack]
  exact Limits.run_ofSettings_put hread hpositive (hreads.nodup_tableIn hproper)
    (hback.nodup_tableIn hproper) hchanged hbefore

end Settings

end DiffReach
