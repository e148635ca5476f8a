import DiffReach.Proofs.Scope.Newness

namespace DiffReach.Scope

open Host

inductive Stops : Value → Fault → Prop
  | notObject {v : Value} : (∀ fields, v ≠ .object fields) → Stops v .notObject
  | tooManyDigits {fields : Dict Value} : entryName fields ≠ "" →
      (entryPatch fields).truthy = true → ¬ Patch.ShortStarts (entryPatch fields).text →
        Stops (.object fields) .tooManyDigits

def FirstStop (entries : List Value) (fault : Fault) : Prop :=
  ∃ before entry after, entries = before ++ entry :: after ∧ Stops entry fault ∧
    ∀ earlier ∈ before, ∀ other, ¬ Stops earlier other

def isWellFormed : Value → Bool
  | .object fields =>
      (match Dict.fetch fields "filename" with
        | some (.str name) => Path.normalize name != ""
        | _ => false) &&
      (match entryPatch fields with
        | .null | .str _ => true
        | _ => false)
  | _ => false

section Entries

variable {scope after : Scope} {entry : Value} {entries rest : List Value} {fault : Fault}

theorem entryName_ne_of_isWellFormed {fields : Dict Value}
    (h : isWellFormed (.object fields) = true) : entryName fields ≠ "" := by
  rw [isWellFormed, Bool.and_eq_true] at h
  obtain ⟨hname, -⟩ := h
  rw [entryName]
  split at hname
  · rename_i name hfetch
    rw [hfetch]
    have hempty : Path.normalize "" = "" := by decide +kernel
    by_cases hnone : name = ""
    · subst hnone
      simp [hempty] at hname
    · simpa [Value.textOrEmpty, Value.truthy, hnone, Value.text] using hname
  · cases hname

theorem addFile_bare {fields : Dict Value} (hname : entryName fields ≠ "")
    (hpatch : ¬ (entryPatch fields).truthy = true) (scope : Scope) :
    scope.addFile (.object fields) = .ok { scope with
      changedFiles := Ascending.insert (entryName fields) scope.changedFiles
      missingPatch := Ascending.insert (entryName fields) scope.missingPatch } := by
  rw [entryName] at hname
  rw [entryPatch] at hpatch
  simp only [addFile, Value.field, bind, Except.bind, if_neg hname, if_neg hpatch, entryName]
  rfl

theorem addFile_unnamed {fields : Dict Value} (hname : entryName fields = "") (scope : Scope) :
    scope.addFile (.object fields) = .ok scope := by
  rw [entryName] at hname
  simp only [addFile, Value.field, bind, Except.bind, if_pos hname]
  rfl

theorem addFile_of_stops (h : Stops entry fault) (scope : Scope) :
    scope.addFile entry = .error fault := by
  cases h with
  | notObject hv =>
    cases entry with
    | object fields => exact absurd rfl (hv fields)
    | _ => rfl
  | tooManyDigits hname hpatch hlong =>
    rw [addFile_patched hname hpatch, Patch.changedLines_of_not_shortStarts hlong]
    rfl

theorem exists_addFile_of_not_stops (h : ∀ fault, ¬ Stops entry fault) (scope : Scope) :
    ∃ after, scope.addFile entry = .ok after := by
  cases entry with
  | object fields =>
    by_cases hname : entryName fields = ""
    · exact ⟨_, addFile_unnamed hname scope⟩
    · by_cases hpatch : (entryPatch fields).truthy = true
      · have hshort : Patch.ShortStarts (entryPatch fields).text := by
          by_contra hlong
          exact h _ (.tooManyDigits hname hpatch hlong)
        obtain ⟨lines, hlines⟩ := hshort.exists_changedLines
        exact ⟨_, by rw [addFile_patched hname hpatch, hlines]; rfl⟩
      · exact ⟨_, addFile_bare hname hpatch scope⟩
  | _ => exact absurd (.notObject fun fields => by simp) (h .notObject)

theorem Stops.unique {other : Fault} (h : Stops entry fault) (hother : Stops entry other) :
    fault = other := by
  cases h with
  | notObject hv =>
    cases hother with
    | notObject => rfl
    | tooManyDigits => exact absurd rfl (hv _)
  | tooManyDigits =>
    cases hother with
    | notObject hv => exact absurd rfl (hv _)
    | tooManyDigits => rfl

theorem firstStop_cons_of_stops {other : Fault} (h : Stops entry other) :
    FirstStop (entry :: rest) fault ↔ other = fault := by
  constructor
  · rintro ⟨before, stopping, after, heq, hstops, hearlier⟩
    cases before with
    | nil =>
      obtain ⟨rfl, -⟩ := List.cons.inj heq
      exact h.unique hstops
    | cons first before =>
      obtain ⟨rfl, -⟩ := List.cons.inj heq
      exact absurd h (hearlier _ List.mem_cons_self other)
  · rintro rfl
    exact ⟨[], entry, rest, rfl, h, List.forall_mem_nil _⟩

theorem firstStop_cons_of_not_stops (h : ∀ fault, ¬ Stops entry fault) :
    FirstStop (entry :: rest) fault ↔ FirstStop rest fault := by
  constructor
  · rintro ⟨before, stopping, after, heq, hstops, hearlier⟩
    cases before with
    | nil =>
      obtain ⟨rfl, -⟩ := List.cons.inj heq
      exact absurd hstops (h fault)
    | cons first before =>
      obtain ⟨rfl, rfl⟩ := List.cons.inj heq
      exact ⟨before, stopping, after, rfl, hstops, (List.forall_mem_cons.mp hearlier).2⟩
  · rintro ⟨before, stopping, after, rfl, hstops, hearlier⟩
    exact ⟨entry :: before, stopping, after, rfl, hstops, List.forall_mem_cons.mpr ⟨h, hearlier⟩⟩

theorem addFiles_eq_error_iff :
    scope.addFiles entries = .error fault ↔ FirstStop entries fault := by
  induction entries generalizing scope with
  | nil =>
    refine iff_of_false (fun h => by cases h) ?_
    rintro ⟨before, entry, after, heq, -⟩
    simp at heq
  | cons entry rest ih =>
    rw [addFiles]
    by_cases hfirst : ∃ other, Stops entry other
    · obtain ⟨other, hother⟩ := hfirst
      rw [addFile_of_stops hother, firstStop_cons_of_stops hother]
      simp [bind, Except.bind]
    · have hnone := not_exists.mp hfirst
      obtain ⟨middle, hmiddle⟩ := exists_addFile_of_not_stops hnone scope
      rw [hmiddle, firstStop_cons_of_not_stops hnone]
      exact ih

theorem FirstStop.exists_mem (h : FirstStop entries fault) :
    ∃ entry ∈ entries, Stops entry fault := by
  obtain ⟨before, entry, after, rfl, hstops, -⟩ := h
  exact ⟨entry, List.mem_append_right before List.mem_cons_self, hstops⟩

theorem exists_addFiles_of_not_stops (h : ∀ entry ∈ entries, ∀ fault, ¬ Stops entry fault)
    (scope : Scope) : ∃ after, scope.addFiles entries = .ok after := by
  cases hfiles : scope.addFiles entries with
  | ok after => exact ⟨after, rfl⟩
  | error fault =>
    obtain ⟨entry, hentry, hstops⟩ := (addFiles_eq_error_iff.mp hfiles).exists_mem
    exact absurd hstops (h entry hentry fault)

end Entries

structure TakesIn (scope : Scope) (fields : Dict Value) : Prop where
  changed : entryName fields ∈ scope.changedFiles
  patched : (entryPatch fields).truthy = true → ∃ lines,
    Patch.changedLines (entryPatch fields).text = .ok lines ∧
      scope.changedLines.fetch (entryName fields) = some lines ∧
      entryName fields ∉ scope.missingPatch
  bare : ¬ (entryPatch fields).truthy = true →
    scope.changedLines.fetch (entryName fields) = none ∧ entryName fields ∈ scope.missingPatch

structure AgreeOn (name : String) (scope other : Scope) : Prop where
  changed : name ∈ scope.changedFiles ↔ name ∈ other.changedFiles
  lines : scope.changedLines.fetch name = other.changedLines.fetch name
  missing : name ∈ scope.missingPatch ↔ name ∈ other.missingPatch
  findings : ∀ f : Finding, Path.normalize f.filePath = name →
    classify (some scope) f = classify (some other) f

section Places

variable {scope other start : Scope} {entries : List Value} {fields : Dict Value}

theorem takesIn_of_addFiles (hh : scope.Holds entries) (h : start.addFiles entries = .ok scope)
    (hd : (entries.filterMap listedName?).Nodup) (hmem : Value.object fields ∈ entries)
    (hname : entryName fields ≠ "") : scope.TakesIn fields := by
  have hlisted : Lists entries (entryName fields) (entryPatch fields).truthy :=
    ⟨hname, fields, hmem, rfl, rfl⟩
  -- the entry is the only one of its name, so it is not listed the other way
  have honly {patched : Bool} (hother : Lists entries (entryName fields) patched) :
      (entryPatch fields).truthy = patched := by
    obtain ⟨-, others, hothers, heq, hpatched⟩ := hother
    have hsame : Value.object others = .object fields := by
      refine eq_of_listedName? hd hothers hmem (listedName?_object ?_) ?_
      · rwa [heq]
      · rw [listedName?_object hname, heq]
    cases hsame
    exact hpatched
  refine ⟨(hh.changed _).mpr ⟨_, hlisted⟩, fun hpatch => ?_, fun hpatch => ?_⟩
  · obtain ⟨lines, hlines, hfetch⟩ := fetch_addFiles_patched h hd hmem hname hpatch
    refine ⟨lines, hlines, hfetch, fun hmissing => ?_⟩
    rw [hh.missing] at hmissing
    exact absurd (hpatch.symm.trans (honly hmissing)) (by decide)
  · rw [Bool.not_eq_true] at hpatch
    rw [hpatch] at hlisted
    refine ⟨?_, (hh.missing _).mpr hlisted⟩
    rw [Dict.fetch_eq_none_iff, hh.lines]
    exact fun hlines => absurd (hpatch.symm.trans (honly hlines)) (by decide)

theorem TakesIn.agreeOn (h : scope.TakesIn fields) (h' : other.TakesIn fields) :
    AgreeOn (entryName fields) scope other := by
  have hlines : scope.changedLines.fetch (entryName fields) =
      other.changedLines.fetch (entryName fields) := by
    by_cases hpatch : (entryPatch fields).truthy = true
    · obtain ⟨lines, hlines, hfetch, -⟩ := h.patched hpatch
      obtain ⟨lines', hlines', hfetch', -⟩ := h'.patched hpatch
      rw [hfetch, hfetch', Except.ok.inj (hlines.symm.trans hlines')]
    · rw [(h.bare hpatch).1, (h'.bare hpatch).1]
  refine ⟨iff_of_true h.changed h'.changed, hlines, ?_, ?_⟩
  · by_cases hpatch : (entryPatch fields).truthy = true
    · obtain ⟨-, -, -, hmissing⟩ := h.patched hpatch
      obtain ⟨-, -, -, hmissing'⟩ := h'.patched hpatch
      exact iff_of_false hmissing hmissing'
    · exact iff_of_true (h.bare hpatch).2 (h'.bare hpatch).2
  · intro f hf
    simp only [classify, judge, hf, hlines, List.elem_eq_mem, h.changed, h'.changed]

end Places

/-- The entries of pages from one on: up to the first page that is not full, or up to a cap. -/
def gathered (perPage : Nat) (pages : Nat → List Value) : Nat → Nat → List Value
  | 0, _ => []
  | left + 1, page =>
      if (pages page).length < perPage then pages page
      else pages page ++ gathered perPage pages left (page + 1)

def listing (limits : Limits) (pages : Nat → List Value) : List Value :=
  gathered (limits.count .pullFilesPerPage) pages (limits.count .maxPullFilePages) 0

/-- A network on which a commit has a pull request with these pages of files; what stands on the
pages is left open. -/
structure ServesPages (client : Client) (network : Network) (repository commit : String)
    (perPage : Nat) (pages : Nat → List Value) (pull : Int) : Prop
    extends Finds client network repository commit pull where
  files : ∀ earlier (page : Nat),
    (finalReply network earlier (client.filesRequest repository (toString pull) (.int (page + 1))
      (.int perPage))).document = .ok (.list (pages page))

section Pages

variable {client : Client} {network : Network} {repository commit : String} {perPage : Nat}
  {pages : Nat → List Value} {pull : Int} {limits : Limits}

theorem run_listPages_gathered
    (h : ServesPages client network repository commit perPage pages pull) (hp : 0 < perPage)
    (cap : Int) (left page : Nat) (journal : Journal) : ∃ later,
      (listPages client (.int perPage) repository pull cap left (page + 1)).run network journal =
        (.ok (gathered perPage pages left page), later) := by
  induction left generalizing page journal with
  | zero => exact ⟨_, rfl⟩
  | succ left ih =>
    obtain ⟨middle, hpage⟩ : ∃ middle, (client.pullFiles repository (toString pull)
        (.int (page + 1)) (.int perPage)).run network journal = (.ok (pages page), middle) :=
      Client.run_read_of_final (h.files journal.requests page)
    have hallows : (Value.int perPage).allows (pages page).length =
        .ok (decide ((pages page).length < perPage)) := by
      change Except.ok (decide (((pages page).length : Int) < perPage)) = _
      simp only [Nat.cast_lt]
    rw [listPages, Session.run_bind_of_ok hpage, gathered, hallows]
    by_cases hempty : (pages page).isEmpty = true
    · have hnil := List.isEmpty_iff.mp hempty
      rw [if_pos hempty, hnil, if_pos (by simpa using hp)]
      exact ⟨_, rfl⟩
    · rw [if_neg hempty, Session.run_bind_of_ok (Session.run_settle_ok _ _ _)]
      by_cases hshort : (pages page).length < perPage
      · rw [if_pos (decide_eq_true hshort), if_pos hshort]
        exact ⟨_, rfl⟩
      · obtain ⟨later, hrest⟩ := ih (page + 1) middle
        rw [Nat.cast_add, Nat.cast_one] at hrest
        rw [if_neg (by simpa using hshort), if_neg hshort, Session.run_bind_of_ok hrest]
        exact ⟨_, rfl⟩

theorem run_listFiles_listing (hl : limits.Positive)
    (h : ServesPages client network repository commit (limits.count .pullFilesPerPage) pages pull)
    (journal : Journal) : ∃ later, (listFiles client limits repository pull).run network journal =
      (.ok (listing limits pages), later) := by
  have hpages : limits.maxPullFilePages = .int (limits.count .maxPullFilePages) :=
    hl.get_eq .maxPullFilePages (by decide)
  have hperPage : limits.pullFilesPerPage = .int (limits.count .pullFilesPerPage) :=
    hl.get_eq .pullFilesPerPage (by decide)
  rw [listFiles, hpages, hperPage]
  exact run_listPages_gathered h (hl.count_pos .pullFilesPerPage (by decide)) _ _ 0 journal

end Pages

section Resolve

variable {client : Client} {network : Network} {limits : Limits} {url commit : Option String}
  {repository : String} {pages : Nat → List Value} {pull : Int}

theorem run_resolve_listing (hl : limits.Positive) (hplaced : ¬ Unplaced client url commit)
    (hpath : Repository.path? (url.getD "") = some repository)
    (h : ServesPages client network repository (commit.getD "") (limits.count .pullFilesPerPage)
      pages pull) (journal : Journal) : ∃ start detail,
      ofDetail repository (commit.getD "") pull detail = .ok start ∧
      ((resolve client limits url commit).run network journal).1 =
        ((start.addFiles (listing limits pages)).map some).mapError .fault := by
  obtain ⟨start, detail, later, hstart, hrun⟩ :=
    h.toFinds.run_lookUp (run_listFiles_listing hl h) journal
  refine ⟨start, detail, hstart, ?_⟩
  rw [resolve_eq hplaced hpath, Session.run_recover, hrun]
  cases start.addFiles (listing limits pages) <;> rfl

theorem exists_takesIn (hl : limits.Positive) (hplaced : ¬ Unplaced client url commit)
    (hpath : Repository.path? (url.getD "") = some repository)
    (h : ServesPages client network repository (commit.getD "") (limits.count .pullFilesPerPage)
      pages pull) (hd : ((listing limits pages).filterMap listedName?).Nodup)
    (hnone : ∀ entry ∈ listing limits pages, ∀ fault, ¬ Stops entry fault) (journal : Journal) :
    ∃ scope, ((resolve client limits url commit).run network journal).1 = .ok (some scope) ∧
      ∀ fields, Value.object fields ∈ listing limits pages →
        isWellFormed (.object fields) = true → scope.TakesIn fields := by
  obtain ⟨start, detail, hstart, hrun⟩ := run_resolve_listing hl hplaced hpath h journal
  obtain ⟨scope, hscope⟩ := exists_addFiles_of_not_stops hnone start
  obtain ⟨hholds, -, -⟩ := holds_of_ofDetail hstart hscope
  refine ⟨scope, by rw [hrun, hscope]; rfl, fun fields hmem hformed => ?_⟩
  exact takesIn_of_addFiles hholds hscope hd hmem (entryName_ne_of_isWellFormed hformed)

theorem resolve_isolates (hl : limits.Positive) (hplaced : ¬ Unplaced client url commit)
    (hpath : Repository.path? (url.getD "") = some repository)
    (h : ServesPages client network repository (commit.getD "") (limits.count .pullFilesPerPage)
      pages pull)
    (hd : ((listing limits pages).filterMap listedName?).Nodup) (journal : Journal) :
    (∀ cause, ((resolve client limits url commit).run network journal).1 = .error cause ↔
      ∃ fault, cause = .fault fault ∧ FirstStop (listing limits pages) fault) ∧
    ((∀ entry ∈ listing limits pages, ∀ fault, ¬ Stops entry fault) → ∃ scope,
      ((resolve client limits url commit).run network journal).1 = .ok (some scope) ∧
      (∀ fields, Value.object fields ∈ listing limits pages →
        isWellFormed (.object fields) = true → scope.TakesIn fields) ∧
      ∀ other pages' number before,
        ServesPages client other repository (commit.getD "") (limits.count .pullFilesPerPage)
          pages' number →
        listing limits pages' = (listing limits pages).filter isWellFormed →
        ∃ scope', ((resolve client limits url commit).run other before).1 = .ok (some scope') ∧
          ∀ fields, Value.object fields ∈ listing limits pages →
            isWellFormed (.object fields) = true →
              AgreeOn (entryName fields) scope scope') := by
  constructor
  · intro cause
    obtain ⟨start, -, -, hrun⟩ := run_resolve_listing hl hplaced hpath h journal
    rw [hrun]
    simp only [← @addFiles_eq_error_iff start]
    cases start.addFiles (listing limits pages) <;> simp [Except.map, Except.mapError, eq_comm]
  · intro hnone
    obtain ⟨scope, hrun, htakes⟩ := exists_takesIn hl hplaced hpath h hd hnone journal
    refine ⟨scope, hrun, htakes, fun other pages' number before h' hfilter => ?_⟩
    have hd' : ((listing limits pages').filterMap listedName?).Nodup := by
      rw [hfilter]
      exact hd.sublist (List.filter_sublist.filterMap listedName?)
    have hnone' : ∀ entry ∈ listing limits pages', ∀ fault, ¬ Stops entry fault := by
      rw [hfilter]
      exact fun entry hentry => hnone entry (List.mem_of_mem_filter hentry)
    obtain ⟨scope', hrun', htakes'⟩ := exists_takesIn hl hplaced hpath h' hd' hnone' before
    refine ⟨scope', hrun', fun fields hmem hformed => ?_⟩
    refine (htakes fields hmem hformed).agreeOn (htakes' fields ?_ hformed)
    rw [hfilter]
    exact List.mem_filter.mpr ⟨hmem, hformed⟩

end Resolve

section Odd

theorem Serves.servesPages {client : Client} {network : Network} {repository commit : String}
    {perPage : Nat} {entries : List Value} {pull : Int}
    (h : Serves client network repository commit perPage entries pull) :
    ServesPages client network repository commit perPage (pageOf entries perPage) pull :=
  ⟨h.finds, h.paged⟩

theorem not_stops_object {fields : Dict Value}
    (h : Patch.ShortStarts (entryPatch fields).text) (fault : Fault) :
    ¬ Stops (.object fields) fault := by
  intro hstops
  cases hstops with
  | notObject hv => exact hv fields rfl
  | tooManyDigits _ _ hlong => exact hlong h

def oddEntries : List Value := [
  patchedEntry "a.py" "@@ -1 +2 @@\n+x",
  .object [("filename", .int 7), ("patch", .bool true)],
  .object [("patch", .str "@@ -1 +5 @@\n+y")],
  .object [("filename", .str "b.py"), ("patch", .list [.int 1])],
  bareEntry "c.py"]

def plainEntries : List Value :=
  [patchedEntry "a.py" "@@ -1 +2 @@\n+x", bareEntry "c.py"]

def onePage (entries : List Value) : Nat → List Value :=
  pageOf entries 100

def onePageRun (entries : List Value) : Except Stop (Option Scope) :=
  ((resolve servingClient {} (some "https://github.com/acme/shop") (some "c0ffee")).run
    (pagedNetwork 100 entries) ⟨[], []⟩).1

theorem listing_onePage (entries : List Value) (h : entries.length < 100) :
    listing {} (onePage entries) = entries := by
  have hpage : onePage entries 0 = entries := by
    rw [onePage, pageOf, Nat.zero_mul, List.drop_zero, List.take_of_length_le (Nat.le_of_lt h)]
  have hperPage : ({} : Limits).count .pullFilesPerPage = 100 := rfl
  have hpages : ({} : Limits).count .maxPullFilePages = 19 + 1 := rfl
  rw [listing, hperPage, hpages, gathered, hpage, if_pos h]

theorem servesPages_onePage (entries : List Value) : ServesPages servingClient
    (pagedNetwork 100 entries) "acme/shop" "c0ffee" 100 (onePage entries) 7 :=
  (serves_pagedNetwork 100 entries "acme/shop" "c0ffee").servesPages

theorem not_unplaced_serving : ¬ Unplaced servingClient (some "https://github.com/acme/shop")
    (some "c0ffee") := by
  simp only [Unplaced]
  decide +kernel

theorem path?_serving : Repository.path? "https://github.com/acme/shop" = some "acme/shop" := by
  decide +kernel

theorem isWellFormed_plainEntries :
    isWellFormed (patchedEntry "a.py" "@@ -1 +2 @@\n+x") = true ∧
      isWellFormed (bareEntry "c.py") = true := by
  decide +kernel

theorem filter_oddEntries : oddEntries.filter isWellFormed = plainEntries := by
  have hleft : isWellFormed (.object [("filename", .int 7), ("patch", .bool true)]) = false ∧
      isWellFormed (.object [("patch", .str "@@ -1 +5 @@\n+y")]) = false ∧
      isWellFormed (.object [("filename", .str "b.py"), ("patch", .list [.int 1])]) = false := by
    decide +kernel
  simp [oddEntries, plainEntries, isWellFormed_plainEntries, hleft]

theorem not_stops_oddEntries : ∀ entry ∈ oddEntries, ∀ fault, ¬ Stops entry fault := by
  have hshort : ∀ patch ∈ ["@@ -1 +2 @@\n+x", "True", "@@ -1 +5 @@\n+y", "[1]", "None"],
      Patch.ShortStarts patch := by
    simp only [Patch.ShortStarts]
    decide +kernel
  simp only [List.forall_mem_cons] at hshort
  obtain ⟨ha, htrue, hy, hlist, hnull, -⟩ := hshort
  simp only [oddEntries, List.forall_mem_cons]
  exact ⟨not_stops_object ha, not_stops_object htrue, not_stops_object hy,
    not_stops_object hlist, not_stops_object hnull, List.forall_mem_nil _⟩

theorem resolve_isolates_odd : ∃ scope scope', onePageRun oddEntries = .ok (some scope) ∧
    onePageRun plainEntries = .ok (some scope') ∧ scope.changedLines.fetch "a.py" = some [2] ∧
    AgreeOn "a.py" scope scope' ∧ AgreeOn "c.py" scope scope' := by
  have hlisting : listing {} (onePage oddEntries) = oddEntries := listing_onePage _ (by decide)
  have hfilter : listing {} (onePage plainEntries) = oddEntries.filter isWellFormed := by
    rw [filter_oddEntries]
    exact listing_onePage _ (by decide)
  have hd : (oddEntries.filterMap listedName?).Nodup := by decide +kernel
  obtain ⟨-, hisolates⟩ := resolve_isolates Limits.positive_default not_unplaced_serving
    path?_serving (servesPages_onePage oddEntries) (by rwa [hlisting]) ⟨[], []⟩
  rw [hlisting] at hisolates
  obtain ⟨scope, hrun, htakes, hsame⟩ := hisolates not_stops_oddEntries
  obtain ⟨scope', hrun', hagree⟩ :=
    hsame _ _ _ ⟨[], []⟩ (servesPages_onePage plainEntries) hfilter
  have hnames : entryName [("filename", .str "a.py"), ("patch", .str "@@ -1 +2 @@\n+x")] = "a.py" ∧
      entryName [("filename", .str "c.py")] = "c.py" := by decide +kernel
  have ha : patchedEntry "a.py" "@@ -1 +2 @@\n+x" ∈ oddEntries := List.mem_cons_self
  have hc : bareEntry "c.py" ∈ oddEntries := List.mem_iff_getElem?.mpr ⟨4, rfl⟩
  have hagreea := hagree _ ha isWellFormed_plainEntries.1
  have hagreec := hagree _ hc isWellFormed_plainEntries.2
  obtain ⟨lines, hlines, hfetch, -⟩ :=
    (htakes _ ha isWellFormed_plainEntries.1).patched (by decide +kernel)
  rw [hnames.1] at hagreea hfetch
  rw [hnames.2] at hagreec
  have hadded : Patch.changedLines "@@ -1 +2 @@\n+x" = .ok [2] := by decide +kernel
  obtain rfl := Except.ok.inj (hadded.symm.trans hlines)
  exact ⟨scope, scope', hrun, hrun', hfetch, hagreea, hagreec⟩

theorem onePageRun_of_firstStop {entries : List Value} {fault : Fault}
    (hlength : entries.length < 100) (h : FirstStop entries fault) :
    onePageRun entries = .error (.fault fault) := by
  obtain ⟨start, -, -, hrun⟩ := run_resolve_listing Limits.positive_default not_unplaced_serving
    path?_serving (servesPages_onePage entries) ⟨[], []⟩
  rw [listing_onePage entries hlength, addFiles_eq_error_iff.mpr h] at hrun
  exact hrun

def longPatch (digits : Nat) : String :=
  String.ofList ("@@ -".toList ++ (['1'] ++ ([] ++ (" +".toList ++ (List.replicate digits '1' ++
    ([] ++ (" @@".toList ++ "\n+x".toList)))))))

theorem isHeader_longPatch {digits : Nat} (h : 0 < digits) :
    Patch.IsHeader (longPatch digits).toList (List.replicate digits '1') := by
  have hdigits : Patch.IsRun (List.replicate digits '1') := by
    refine ⟨by simpa using h.ne', fun c hc => ?_⟩
    rw [List.eq_of_mem_replicate hc]
    decide
  have hone : Patch.IsRun ['1'] := ⟨by simp, List.forall_mem_singleton.mpr (by decide)⟩
  exact ⟨['1'], [], [], "\n+x".toList, String.toList_ofList, hone, .absent, hdigits, .absent⟩

theorem stops_longPatch {digits : Nat} (h : Numeral.maxDigits < digits) :
    Stops (patchedEntry "b.py" (longPatch digits)) .tooManyDigits := by
  have hheader := isHeader_longPatch (Nat.zero_lt_of_lt h)
  refine .tooManyDigits ?_ ?_ ?_
  · have hname : entryName [("filename", .str "b.py")] ≠ "" := by decide +kernel
    exact hname
  · have hne : longPatch digits ≠ "" := by
      intro hempty
      obtain ⟨old, oldCount, newCount, rest, hline, -⟩ := hheader
      rw [hempty] at hline
      exact absurd hline.symm (List.append_ne_nil_of_left_ne_nil (by decide) _)
    exact bne_iff_ne.mpr hne
  · intro hshort
    obtain ⟨first, parts, hparts, hfirst⟩ := hheader.splitOn
    have hmem : first ∈ Text.splitOn '\n' (longPatch digits).toList := by
      rw [hparts]
      exact List.mem_cons_self
    have hlength := hshort first hmem
    rw [hfirst.headerStart?, Option.getD_some, List.length_replicate] at hlength
    omega

/-- One entry more, and the files that are listed as they should be are lost with it. -/
theorem onePageRun_stopped :
    (∃ scope, onePageRun plainEntries = .ok (some scope)) ∧
    onePageRun (plainEntries ++ [.int 3]) = .error (.fault .notObject) ∧
    onePageRun (plainEntries ++ [patchedEntry "b.py" (longPatch 4301)]) =
      .error (.fault .tooManyDigits) := by
  have hplain : ∀ entry ∈ plainEntries, ∀ fault, ¬ Stops entry fault := by
    rw [← filter_oddEntries]
    exact fun entry hentry => not_stops_oddEntries entry (List.mem_of_mem_filter hentry)
  have hfirst {last : Value} {fault : Fault} (h : Stops last fault) :
      onePageRun (plainEntries ++ [last]) = .error (.fault fault) :=
    onePageRun_of_firstStop (by simp [plainEntries]) ⟨plainEntries, last, [], rfl, h, hplain⟩
  refine ⟨?_, hfirst (.notObject (by simp)), hfirst (stops_longPatch (by decide))⟩
  obtain ⟨start, -, -, hrun⟩ := run_resolve_listing Limits.positive_default not_unplaced_serving
    path?_serving (servesPages_onePage plainEntries) ⟨[], []⟩
  obtain ⟨scope, hscope⟩ := exists_addFiles_of_not_stops hplain start
  rw [listing_onePage _ (by decide), hscope] at hrun
  exact ⟨scope, hrun⟩

end Odd

end DiffReach.Scope
