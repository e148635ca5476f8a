import DiffReach.Proofs.Limits
import DiffReach.Proofs.Scope.Pagination
import Mathlib.Data.List.Pairwise

namespace DiffReach.Scope

open Host

/-- A network on which a commit has a pull request, at the last try of each request. -/
structure Finds (client : Client) (network : Network) (repository commit : String)
    (pull : Int) : Prop where
  associated : pull ≠ 0
  pulls : ∀ earlier, ∃ fields others,
    (finalReply network earlier (client.pullsRequest repository commit)).document =
      .ok (.list (.object fields :: others)) ∧ Dict.fetch fields "number" = some (.int pull)
  detail : ∀ earlier, ∃ fields,
    (finalReply network earlier (client.pullRequest repository (toString pull))).document =
      .ok (.object fields) ∧ ArePullFields fields

structure Serves (client : Client) (network : Network) (repository commit : String)
    (perPage : Nat) (entries : List Value) (pull : Int) : Prop where
  associated : pull ≠ 0
  pulls : ∀ earlier, ∃ fields others,
    (network earlier (client.pullsRequest repository commit)).document =
      .ok (.list (.object fields :: others)) ∧ Dict.fetch fields "number" = some (.int pull)
  detail : ∀ earlier, ∃ fields,
    (network earlier (client.pullRequest repository (toString pull))).document =
      .ok (.object fields) ∧ ArePullFields fields
  files : ∀ earlier (page : Nat),
    (network earlier (client.filesRequest repository (toString pull) (.int (page + 1))
      (.int perPage))).document = .ok (.list (pageOf entries perPage page))

section Listing

variable {client : Client} {network : Network} {repository commit : String} {perPage : Nat}
  {entries : List Value} {pull : Int}

theorem Serves.paged (h : Serves client network repository commit perPage entries pull) :
    Paged client network repository pull perPage entries := by
  intro earlier page
  have hpage := h.files earlier page
  rw [(finalReply_of_document_eq_ok hpage).2, hpage]

theorem Serves.finds (h : Serves client network repository commit perPage entries pull) :
    Finds client network repository commit pull where
  associated := h.associated
  pulls earlier := by
    obtain ⟨fields, others, hdocument, hnumber⟩ := h.pulls earlier
    refine ⟨fields, others, ?_, hnumber⟩
    rw [(finalReply_of_document_eq_ok hdocument).2, hdocument]
  detail earlier := by
    obtain ⟨fields, hdocument, hshape⟩ := h.detail earlier
    refine ⟨fields, ?_, hshape⟩
    rw [(finalReply_of_document_eq_ok hdocument).2, hdocument]

def withinPages (limits : Limits) (entries : List Value) : List Value :=
  entries.take (limits.count .maxPullFilePages * limits.count .pullFilesPerPage)

variable {limits : Limits}

theorem run_listFiles (hl : limits.Positive)
    (h : Serves client network repository commit (limits.count .pullFilesPerPage) entries pull)
    (journal : Journal) : ∃ later, (listFiles client limits repository pull).run network journal =
      (.ok (withinPages limits entries), later) := by
  have hpages : limits.maxPullFilePages = .int (limits.count .maxPullFilePages) :=
    hl.get_eq .maxPullFilePages (by decide)
  have hperPage : limits.pullFilesPerPage = .int (limits.count .pullFilesPerPage) :=
    hl.get_eq .pullFilesPerPage (by decide)
  have hpos : 0 < limits.count .pullFilesPerPage := hl.count_pos .pullFilesPerPage (by decide)
  exact ⟨_, run_listFiles_paged h.paged hpos hperPage hpages journal⟩

theorem Finds.run_lookUp (h : Finds client network repository commit pull) {files : List Value}
    (hlist : ∀ journal, ∃ later, (listFiles client limits repository pull).run network journal =
      (.ok files, later)) (journal : Journal) : ∃ start detail later,
        ofDetail repository commit pull detail = .ok start ∧
        (lookUp client limits repository commit).run network journal =
          ((Session.settle (start.addFiles files) >>= fun scope =>
            pure (some scope)) : Session (Option Scope)).run network later := by
  obtain ⟨fields, others, hdocument, hnumber⟩ := h.pulls journal.requests
  obtain ⟨afterPulls, hpulls⟩ : ∃ later,
      (client.commitPulls repository commit).run network journal =
        (.ok (.object fields :: others), later) :=
    Client.run_read_of_final hdocument
  have hfirst : firstPull (.object fields :: others) = .ok pull := by
    simp [firstPull, Value.field, hnumber, Value.truthy, h.associated, Value.toInt, bind,
      Except.bind]
  obtain ⟨detail, hdetail, hshape⟩ := h.detail afterPulls.requests
  obtain ⟨afterDetail, hpull⟩ : ∃ later, (client.pull repository (toString pull)).run network
      afterPulls = (.ok detail, later) :=
    Client.run_read_of_final hdetail
  obtain ⟨start, hstart⟩ := exists_ofDetail hshape repository commit pull
  obtain ⟨later, hfiles⟩ := hlist afterDetail
  refine ⟨start, detail, later, hstart, ?_⟩
  rw [lookUp, Session.run_bind_of_ok hpulls, hfirst,
    Session.run_bind_of_ok (Session.run_settle_ok _ _ _), if_neg h.associated,
    Session.run_bind_of_ok hpull, hstart, Session.run_bind_of_ok (Session.run_settle_ok _ _ _),
    Session.run_bind_of_ok hfiles]

theorem run_lookUp (hl : limits.Positive)
    (h : Serves client network repository commit (limits.count .pullFilesPerPage) entries pull)
    (hfiles : ∀ entry ∈ withinPages limits entries, IsFile entry) (journal : Journal) :
    ∃ scope later, (lookUp client limits repository commit).run network journal =
      (.ok (some scope), later) ∧ ∃ start detail,
        ofDetail repository commit pull detail = .ok start ∧
        start.addFiles (withinPages limits entries) = .ok scope := by
  obtain ⟨start, detail, later, hstart, hrun⟩ := h.finds.run_lookUp (run_listFiles hl h) journal
  obtain ⟨scope, hscope⟩ := exists_addFiles hfiles start
  refine ⟨scope, later, ?_, start, detail, hstart, hscope⟩
  rw [hrun, hscope]
  rfl

end Listing

def listedName? : Value → Option String
  | .object fields => if entryName fields = "" then none else some (entryName fields)
  | _ => none

theorem listedName?_object {fields : Dict Value} (h : entryName fields ≠ "") :
    listedName? (.object fields) = some (entryName fields) := by
  rw [listedName?, if_neg h]

theorem eq_of_listedName? {entries : List Value} (hd : (entries.filterMap listedName?).Nodup)
    {a b : Value} (ha : a ∈ entries) (hb : b ∈ entries) {name : String}
    (hna : listedName? a = some name) (hnb : listedName? b = some name) : a = b := by
  by_contra hne
  rw [List.Nodup, List.pairwise_filterMap] at hd
  have : Std.Symm fun a b => ∀ m, listedName? a = some m → ∀ n, listedName? b = some n → m ≠ n :=
    ⟨fun _ _ h m hm n hn => (h n hn m hm).symm⟩
  exact hd.forall ha hb hne name hna name hnb rfl

section Lines

variable {scope after : Scope} {entries : List Value}

theorem fetch_addFile_of_ne {entry : Value} {name : String} (h : scope.addFile entry = .ok after)
    (hne : listedName? entry ≠ some name) :
    after.changedLines.fetch name = scope.changedLines.fetch name := by
  obtain ⟨fields, rfl, hcases⟩ := addFile_cases h
  rcases hcases with ⟨-, rfl⟩ | ⟨hname, -, lines, rfl⟩ | ⟨-, -, rfl⟩
  · rfl
  · rw [listedName?_object hname] at hne
    have hother : name ≠ entryName fields := fun heq => hne (congrArg some heq.symm)
    rw [Dict.fetch_put, if_neg hother]
  · rfl

theorem fetch_addFiles_of_not_mem {name : String} (h : scope.addFiles entries = .ok after)
    (hname : name ∉ entries.filterMap listedName?) :
    after.changedLines.fetch name = scope.changedLines.fetch name := by
  induction entries generalizing scope with
  | nil =>
    cases h
    rfl
  | cons entry rest ih =>
    rw [addFiles] at h
    cases hfirst : scope.addFile entry with
    | error fault =>
      rw [hfirst] at h
      cases h
    | ok middle =>
      rw [hfirst] at h
      have hne : listedName? entry ≠ some name := by
        intro heq
        exact hname (List.mem_filterMap.mpr ⟨entry, List.mem_cons_self, heq⟩)
      have hrest : name ∉ rest.filterMap listedName? := by
        intro hmem
        obtain ⟨other, hother, heq⟩ := List.mem_filterMap.mp hmem
        exact hname (List.mem_filterMap.mpr ⟨other, List.mem_cons_of_mem _ hother, heq⟩)
      rw [ih h hrest, fetch_addFile_of_ne hfirst hne]

theorem addFile_patched {fields : Dict Value} (hname : entryName fields ≠ "")
    (hpatch : (entryPatch fields).truthy = true) (scope : Scope) :
    scope.addFile (.object fields) =
      (Patch.changedLines (entryPatch fields).text).map fun lines => { scope with
        changedFiles := Ascending.insert (entryName fields) scope.changedFiles
        changedLines := scope.changedLines.put (entryName fields) lines } := by
  rw [entryName] at hname
  rw [entryPatch] at hpatch
  simp only [addFile, Value.field, bind, Except.bind, if_neg hname, if_pos hpatch, entryName,
    entryPatch]
  cases Patch.changedLines ((fields.fetch "patch").getD .null).text <;> rfl

theorem fetch_addFile_patched {fields : Dict Value} (h : scope.addFile (.object fields) = .ok after)
    (hname : entryName fields ≠ "") (hpatch : (entryPatch fields).truthy = true) :
    ∃ lines, Patch.changedLines (entryPatch fields).text = .ok lines ∧
      after.changedLines.fetch (entryName fields) = some lines := by
  rw [addFile_patched hname hpatch] at h
  cases hlines : Patch.changedLines (entryPatch fields).text with
  | error fault =>
    rw [hlines] at h
    cases h
  | ok lines =>
    rw [hlines] at h
    cases h
    refine ⟨lines, rfl, ?_⟩
    rw [Dict.fetch_put, if_pos rfl]

theorem fetch_addFiles_patched (h : scope.addFiles entries = .ok after)
    (hd : (entries.filterMap listedName?).Nodup) {fields : Dict Value}
    (hmem : Value.object fields ∈ entries) (hname : entryName fields ≠ "")
    (hpatch : (entryPatch fields).truthy = true) :
    ∃ lines, Patch.changedLines (entryPatch fields).text = .ok lines ∧
      after.changedLines.fetch (entryName fields) = some lines := by
  induction entries generalizing scope with
  | nil => cases hmem
  | cons entry rest ih =>
    rw [addFiles] at h
    cases hfirst : scope.addFile entry with
    | error fault =>
      rw [hfirst] at h
      cases h
    | ok middle =>
      rw [hfirst] at h
      rcases List.mem_cons.mp hmem with rfl | hmem
      · obtain ⟨lines, hlines, hfetch⟩ := fetch_addFile_patched hfirst hname hpatch
        rw [List.filterMap_cons_some (listedName?_object hname)] at hd
        refine ⟨lines, hlines, ?_⟩
        rw [fetch_addFiles_of_not_mem h (List.nodup_cons.mp hd).1, hfetch]
      · refine ih h ?_ hmem
        exact hd.sublist ((List.sublist_cons_self entry rest).filterMap listedName?)

end Lines

def IsAbout (fields : Dict Value) (f : Finding) : Prop :=
  Path.normalize f.filePath ≠ "" ∧ entryName fields = Path.normalize f.filePath

structure Judges (scope : Scope) (entries : List Value) : Prop where
  line : ∀ f fields patch, Value.object fields ∈ entries → IsAbout fields f →
    entryPatch fields = .str patch → patch ≠ "" → ∃ lines, Patch.changedLines patch = .ok lines ∧
      classify (some scope) f = (decide (f.lineNumber ∈ lines), some .changedLine)
  file : ∀ f fields, Value.object fields ∈ entries → IsAbout fields f →
    entryPatch fields = .null ∨ entryPatch fields = .str "" →
      classify (some scope) f = (true, some .wholeFile)
  absent : ∀ f, (∀ fields, Value.object fields ∈ entries → ¬ IsAbout fields f) →
    classify (some scope) f = (false, none)

section Judges

variable {scope start : Scope} {entries : List Value}

theorem classify_of_fetch {f : Finding} {lines : List Int}
    (h : scope.changedLines.fetch (Path.normalize f.filePath) = some lines) :
    classify (some scope) f = (decide (f.lineNumber ∈ lines), some .changedLine) := by
  simp [classify, judge, h]

theorem classify_of_changed {f : Finding}
    (h : scope.changedLines.fetch (Path.normalize f.filePath) = none)
    (hc : Path.normalize f.filePath ∈ scope.changedFiles) :
    classify (some scope) f = (true, some .wholeFile) := by
  simp [classify, judge, h, hc]

theorem classify_of_unchanged {f : Finding}
    (h : scope.changedLines.fetch (Path.normalize f.filePath) = none)
    (hc : Path.normalize f.filePath ∉ scope.changedFiles) :
    classify (some scope) f = (false, none) := by
  simp [classify, judge, h, hc]

theorem judges_of_addFiles (hh : scope.Holds entries) (h : start.addFiles entries = .ok scope)
    (hd : (entries.filterMap listedName?).Nodup) : scope.Judges entries where
  line f fields patch hmem habout hpatch hne := by
    have hname : entryName fields ≠ "" := by
      rw [habout.2]
      exact habout.1
    have htruthy : (entryPatch fields).truthy = true := by simp [hpatch, Value.truthy, hne]
    obtain ⟨lines, hlines, hfetch⟩ := fetch_addFiles_patched h hd hmem hname htruthy
    rw [hpatch] at hlines
    rw [habout.2] at hfetch
    exact ⟨lines, hlines, classify_of_fetch hfetch⟩
  file f fields hmem habout hpatch := by
    have hname : entryName fields ≠ "" := by
      rw [habout.2]
      exact habout.1
    have hbare : (entryPatch fields).truthy = false := by
      rcases hpatch with hpatch | hpatch <;> rw [hpatch] <;> rfl
    have hlisted : Lists entries (Path.normalize f.filePath) false :=
      ⟨habout.1, fields, hmem, habout.2, hbare⟩
    refine classify_of_changed ?_ ((hh.changed _).mpr ⟨false, hlisted⟩)
    rw [Dict.fetch_eq_none_iff, hh.lines]
    rintro ⟨-, others, hothers, heq, hpatched⟩
    have hsame : Value.object others = .object fields := by
      refine eq_of_listedName? hd hothers hmem (listedName?_object ?_) ?_
      · rw [heq]
        exact habout.1
      · rw [listedName?_object hname, habout.2, heq]
    cases hsame
    rw [hbare] at hpatched
    cases hpatched
  absent f hnone := by
    have hunlisted (patched : Bool) : ¬ Lists entries (Path.normalize f.filePath) patched := by
      rintro ⟨hne, fields, hmem, heq, -⟩
      exact hnone fields hmem ⟨hne, heq⟩
    refine classify_of_unchanged ?_ ?_
    · rw [Dict.fetch_eq_none_iff, hh.lines]
      exact hunlisted true
    · rw [hh.changed]
      rintro ⟨patched, hlisted⟩
      exact hunlisted patched hlisted

theorem Judges.classify_eq {other : Scope} {others : List Value} (h : scope.Judges entries)
    (h' : other.Judges others) (hperm : others.Perm entries)
    (hfiles : ∀ entry ∈ entries, IsFile entry) (f : Finding) :
    classify (some other) f = classify (some scope) f := by
  by_cases hlisted : ∃ fields, Value.object fields ∈ entries ∧ IsAbout fields f
  · obtain ⟨fields, hmem, habout⟩ := hlisted
    have hmem' := hperm.mem_iff.mpr hmem
    obtain ⟨_, name, heq, -, hpatch⟩ := hfiles _ hmem
    cases heq
    by_cases hbare : entryPatch fields = .null ∨ entryPatch fields = .str ""
    · rw [h.file f fields hmem habout hbare, h'.file f fields hmem' habout hbare]
    · obtain ⟨patch, hpatch⟩ : ∃ patch, entryPatch fields = .str patch := by
        rcases hpatch with hnull | ⟨patch, hfetch, -⟩
        · exact absurd (Or.inl hnull) hbare
        · exact ⟨patch, by rw [entryPatch, hfetch]; rfl⟩
      have hne : patch ≠ "" := by
        rintro rfl
        exact hbare (Or.inr hpatch)
      obtain ⟨lines, hlines, hjudged⟩ := h.line f fields patch hmem habout hpatch hne
      obtain ⟨lines', hlines', hjudged'⟩ := h'.line f fields patch hmem' habout hpatch hne
      cases hlines.symm.trans hlines'
      rw [hjudged, hjudged']
  · have hnone : ∀ fields, Value.object fields ∈ entries → ¬ IsAbout fields f :=
      fun fields hmem habout => hlisted ⟨fields, hmem, habout⟩
    rw [h.absent f hnone, h'.absent f fun fields hmem => hnone fields (hperm.mem_iff.mp hmem)]

end Judges

section Resolve

variable {client : Client} {limits : Limits} {url commit : Option String} {repository : String}

theorem exists_judges {network : Network} {entries : List Value} {pull : Int}
    (hl : limits.Positive) (hplaced : ¬ Unplaced client url commit)
    (hpath : Repository.path? (url.getD "") = some repository)
    (h : Serves client network repository (commit.getD "") (limits.count .pullFilesPerPage)
      entries pull)
    (hfiles : ∀ entry ∈ withinPages limits entries, IsFile entry)
    (hd : ((withinPages limits entries).filterMap listedName?).Nodup) (journal : Journal) :
    ∃ scope later, (resolve client limits url commit).run network journal =
      (.ok (some scope), later) ∧ scope.Judges (withinPages limits entries) := by
  obtain ⟨scope, later, hrun, start, detail, hstart, hscope⟩ := run_lookUp hl h hfiles journal
  obtain ⟨hholds, -, -⟩ := holds_of_ofDetail hstart hscope
  refine ⟨scope, later, ?_, judges_of_addFiles hholds hscope hd⟩
  rw [resolve_eq hplaced hpath, Session.run_recover, hrun]

theorem resolve_newness {network : Network} {entries : List Value} {pull : Int}
    (hl : limits.Positive) (hplaced : ¬ Unplaced client url commit)
    (hpath : Repository.path? (url.getD "") = some repository)
    (h : Serves client network repository (commit.getD "") (limits.count .pullFilesPerPage)
      entries pull)
    (hfiles : ∀ entry ∈ withinPages limits entries, IsFile entry)
    (hd : ((withinPages limits entries).filterMap listedName?).Nodup) (journal : Journal) :
    ∃ scope later, (resolve client limits url commit).run network journal =
        (.ok (some scope), later) ∧
      scope.Judges (withinPages limits entries) ∧
      ∀ other others number before,
        Serves client other repository (commit.getD "") (limits.count .pullFilesPerPage)
          others number →
        (withinPages limits others).Perm (withinPages limits entries) →
        ∃ scope' later', (resolve client limits url commit).run other before =
            (.ok (some scope'), later') ∧
          ∀ f, classify (some scope') f = classify (some scope) f := by
  obtain ⟨scope, later, hrun, hjudges⟩ := exists_judges hl hplaced hpath h hfiles hd journal
  refine ⟨scope, later, hrun, hjudges, fun other others number before h' hperm => ?_⟩
  have hfiles' : ∀ entry ∈ withinPages limits others, IsFile entry :=
    fun entry hentry => hfiles entry (hperm.mem_iff.mp hentry)
  have hd' : ((withinPages limits others).filterMap listedName?).Nodup :=
    (hperm.filterMap listedName?).nodup_iff.mpr hd
  obtain ⟨scope', later', hrun', hjudges'⟩ :=
    exists_judges hl hplaced hpath h' hfiles' hd' before
  exact ⟨scope', later', hrun', hjudges.classify_eq hjudges' hperm hfiles⟩

end Resolve

def pagedNetwork (perPage : Nat) (entries : List Value) : Network := fun _ r =>
  .response ⟨200, .document (match r.action, r.headers.fetch "Accept" with
    | .get (some [_, (_, .int page)]), _ => .list (pageOf entries perPage (page.toNat - 1))
    | _, some (.str accept) =>
        if accept = Client.pullsAccept then .list [.object [("number", .int 7)]] else .object []
    | _, _ => .null), none⟩

theorem serves_pagedNetwork (perPage : Nat) (entries : List Value) (repository commit : String) :
    Serves servingClient (pagedNetwork perPage entries) repository commit perPage entries 7 where
  associated := by decide
  pulls _ := ⟨_, _, rfl, rfl⟩
  detail _ := ⟨[], rfl, Or.inl rfl, Or.inl rfl⟩
  files earlier page := by
    change Except.ok (Value.list (pageOf entries perPage ((page + 1 : Int).toNat - 1))) = _
    rw [show (page + 1 : Int).toNat - 1 = page by omega]

def pagedLimits : Limits :=
  { maxPullFilePages := .int 2, pullFilesPerPage := .int 2 }

theorem positive_pagedLimits : pagedLimits.Positive := by
  constructor
  · intro key hk
    cases key with
    | requestTimeout => exact absurd rfl hk
    | _ => exact ⟨_, by decide, rfl⟩
  · exact ⟨_, rfl, by decide⟩

def patchedEntry (name patch : String) : Value :=
  .object [("filename", .str name), ("patch", .str patch)]

def bareEntry (name : String) : Value :=
  .object [("filename", .str name)]

theorem isFile_patchedEntry {name patch : String} (h : Patch.ShortStarts patch) :
    IsFile (patchedEntry name patch) :=
  ⟨_, name, rfl, rfl, Or.inr ⟨patch, rfl, h⟩⟩

theorem isFile_bareEntry (name : String) : IsFile (bareEntry name) :=
  ⟨_, name, rfl, rfl, Or.inl rfl⟩

def pagedEntries : List Value := [
  patchedEntry "a.py" "@@ -1 +2 @@\n+x", bareEntry "/b.py", bareEntry "//",
  patchedEntry "src\\c.py" "@@ -0,0 +1,2 @@\n+x\n+y", bareEntry "late.py"]

def shuffledEntries : List Value := [
  patchedEntry "src\\c.py" "@@ -0,0 +1,2 @@\n+x\n+y", bareEntry "//", bareEntry "/b.py",
  patchedEntry "a.py" "@@ -1 +2 @@\n+x"]

def pagedRun (entries : List Value) : Except Stop (Option Scope) × Journal :=
  (resolve servingClient pagedLimits (some "https://github.com/acme/shop") (some "c0ffee")).run
    (pagedNetwork 2 entries) ⟨[], []⟩

theorem resolve_newness_paged : ∃ scope later, pagedRun pagedEntries = (.ok (some scope), later) ∧
    classify (some scope) (bareFinding "/src/c.py" 2) = (true, some .changedLine) ∧
    classify (some scope) (bareFinding "b.py" 9) = (true, some .wholeFile) ∧
    classify (some scope) (bareFinding "late.py" 1) = (false, none) ∧
    ∃ scope' later', pagedRun shuffledEntries = (.ok (some scope'), later') ∧
      ∀ f, classify (some scope') f = classify (some scope) f := by
  have hplaced : ¬ Unplaced servingClient (some "https://github.com/acme/shop")
      (some "c0ffee") := by
    simp only [Unplaced]
    decide +kernel
  have hpath : Repository.path? "https://github.com/acme/shop" = some "acme/shop" := by
    decide +kernel
  have hfiles : ∀ entry ∈ withinPages pagedLimits pagedEntries, IsFile entry := by
    have ha : Patch.ShortStarts "@@ -1 +2 @@\n+x" := by
      rw [Patch.ShortStarts]
      decide +kernel
    have hc : Patch.ShortStarts "@@ -0,0 +1,2 @@\n+x\n+y" := by
      rw [Patch.ShortStarts]
      decide +kernel
    have hall : ∀ entry ∈ pagedEntries, IsFile entry := by
      simp only [pagedEntries, List.forall_mem_cons]
      exact ⟨isFile_patchedEntry ha, isFile_bareEntry _, isFile_bareEntry _,
        isFile_patchedEntry hc, isFile_bareEntry _, List.forall_mem_nil _⟩
    exact fun entry hentry => hall entry (List.mem_of_mem_take hentry)
  have hd : ((withinPages pagedLimits pagedEntries).filterMap listedName?).Nodup := by
    decide +kernel
  have hperm : (withinPages pagedLimits shuffledEntries).Perm
      (withinPages pagedLimits pagedEntries) :=
    List.reverse_perm (withinPages pagedLimits pagedEntries)
  obtain ⟨scope, later, hrun, hjudges, hsame⟩ := resolve_newness positive_pagedLimits hplaced hpath
    (serves_pagedNetwork 2 pagedEntries "acme/shop" "c0ffee") hfiles hd ⟨[], []⟩
  refine ⟨scope, later, hrun, ?_, ?_, ?_, ?_⟩
  · obtain ⟨lines, hlines, hjudged⟩ := hjudges.line (bareFinding "/src/c.py" 2) _
      "@@ -0,0 +1,2 @@\n+x\n+y" (List.mem_iff_getElem?.mpr ⟨3, rfl⟩)
      ⟨by decide +kernel, by decide +kernel⟩ rfl (by decide)
    have hadded : Patch.changedLines "@@ -0,0 +1,2 @@\n+x\n+y" = .ok [1, 2] := rfl
    cases hadded.symm.trans hlines
    exact hjudged
  · exact hjudges.file (bareFinding "b.py" 9) _ (List.mem_iff_getElem?.mpr ⟨1, rfl⟩)
      ⟨by decide +kernel, by decide +kernel⟩ (Or.inl rfl)
  · refine hjudges.absent (bareFinding "late.py" 1) fun fields hmem habout => ?_
    have hname := List.mem_filterMap.mpr ⟨_, hmem, listedName?_object (habout.2 ▸ habout.1)⟩
    rw [habout.2] at hname
    revert hname
    decide +kernel
  · exact hsame (pagedNetwork 2 shuffledEntries) shuffledEntries 7 ⟨[], []⟩
      (serves_pagedNetwork 2 shuffledEntries "acme/shop" "c0ffee") hperm

end DiffReach.Scope
