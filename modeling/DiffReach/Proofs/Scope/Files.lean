import DiffReach.Proofs.Ascending
import DiffReach.Proofs.Dict
import DiffReach.Proofs.Session
import DiffReach.Scope.Resolution

namespace DiffReach.Scope

open Host

def entryName (fields : Dict Value) : String :=
  Path.normalize ((fields.fetch "filename").getD .null).textOrEmpty

def entryPatch (fields : Dict Value) : Value :=
  (fields.fetch "patch").getD .null

def Lists (entries : List Value) (name : String) (patched : Bool) : Prop :=
  name ≠ "" ∧ ∃ fields, Value.object fields ∈ entries ∧ entryName fields = name ∧
    (entryPatch fields).truthy = patched

theorem lists_append {xs ys : List Value} {name : String} {patched : Bool} :
    Lists (xs ++ ys) name patched ↔ Lists xs name patched ∨ Lists ys name patched := by
  simp only [Lists, List.mem_append]
  grind

theorem lists_singleton {fields : Dict Value} {name : String} {patched : Bool} :
    Lists [.object fields] name patched ↔
      name ≠ "" ∧ name = entryName fields ∧ (entryPatch fields).truthy = patched := by
  constructor
  · rintro ⟨hname, other, hmem, heq, hpatch⟩
    cases List.mem_singleton.mp hmem
    exact ⟨hname, heq.symm, hpatch⟩
  · rintro ⟨hname, heq, hpatch⟩
    exact ⟨hname, fields, List.mem_singleton.mpr rfl, heq.symm, hpatch⟩

theorem addFile_cases {scope after : Scope} {entry : Value}
    (h : scope.addFile entry = .ok after) :
    ∃ fields, entry = .object fields ∧
      (entryName fields = "" ∧ after = scope ∨
        entryName fields ≠ "" ∧ (entryPatch fields).truthy = true ∧
          (∃ lines, after = { scope with
            changedFiles := Ascending.insert (entryName fields) scope.changedFiles
            changedLines := scope.changedLines.put (entryName fields) lines }) ∨
        entryName fields ≠ "" ∧ (entryPatch fields).truthy = false ∧ after = { scope with
            changedFiles := Ascending.insert (entryName fields) scope.changedFiles
            missingPatch := Ascending.insert (entryName fields) scope.missingPatch }) := by
  cases entry with
  | object fields =>
    refine ⟨fields, rfl, ?_⟩
    simp only [addFile, Value.field, bind, Except.bind] at h
    split at h
    · rename_i hname
      exact Or.inl ⟨hname, (Except.ok.inj h).symm⟩
    · rename_i hname
      split at h
      · rename_i hpatch
        split at h
        · cases h
        · rename_i lines _
          exact Or.inr (Or.inl ⟨hname, hpatch, lines, (Except.ok.inj h).symm⟩)
      · rename_i hpatch
        exact Or.inr (Or.inr ⟨hname, Bool.eq_false_iff.mpr hpatch, (Except.ok.inj h).symm⟩)
  | _ => simp [addFile, Value.field, bind, Except.bind] at h

structure Extends (entries : List Value) (scope after : Scope) : Prop where
  repository : after.repository = scope.repository
  pullNumber : after.pullNumber = scope.pullNumber
  changed : ∀ name, name ∈ after.changedFiles ↔
    name ∈ scope.changedFiles ∨ ∃ patched, Lists entries name patched
  lines : ∀ name, name ∈ after.changedLines.names ↔
    name ∈ scope.changedLines.names ∨ Lists entries name true
  missing : ∀ name, name ∈ after.missingPatch ↔
    name ∈ scope.missingPatch ∨ Lists entries name false

theorem extends_addFile {scope after : Scope} {entry : Value}
    (h : scope.addFile entry = .ok after) : Extends [entry] scope after := by
  obtain ⟨fields, rfl, hcases⟩ := addFile_cases h
  rcases hcases with ⟨hname, rfl⟩ | ⟨hname, hpatch, lines, rfl⟩ | ⟨hname, hpatch, rfl⟩
  · constructor <;> simp only [lists_singleton] <;> grind
  · constructor <;> simp only [lists_singleton, Ascending.mem_insert, Dict.mem_names_put] <;> grind
  · constructor <;> simp only [lists_singleton, Ascending.mem_insert] <;> grind

theorem Extends.trans {xs ys : List Value} {scope middle after : Scope}
    (h : Extends xs scope middle) (h' : Extends ys middle after) :
    Extends (xs ++ ys) scope after where
  repository := h'.repository.trans h.repository
  pullNumber := h'.pullNumber.trans h.pullNumber
  changed name := by
    simp only [h'.changed, h.changed, lists_append, exists_or, or_assoc]
  lines name := by
    simp only [h'.lines, h.lines, lists_append, or_assoc]
  missing name := by
    simp only [h'.missing, h.missing, lists_append, or_assoc]

theorem extends_addFiles {scope after : Scope} {entries : List Value}
    (h : scope.addFiles entries = .ok after) : Extends entries scope after := by
  induction entries generalizing scope with
  | nil =>
    cases h
    constructor <;> simp [Lists]
  | cons entry rest ih =>
    rw [addFiles] at h
    cases hfirst : scope.addFile entry with
    | error fault =>
      rw [hfirst] at h
      cases h
    | ok middle =>
      rw [hfirst] at h
      exact (extends_addFile hfirst).trans (ih h)

structure Holds (scope : Scope) (entries : List Value) : Prop where
  changed : ∀ name, name ∈ scope.changedFiles ↔ ∃ patched, Lists entries name patched
  lines : ∀ name, name ∈ scope.changedLines.names ↔ Lists entries name true
  missing : ∀ name, name ∈ scope.missingPatch ↔ Lists entries name false

theorem holds_of_ofDetail {repository commit : String} {pull : Int} {detail : Dict Value}
    {start scope : Scope} {entries : List Value}
    (hstart : ofDetail repository commit pull detail = .ok start)
    (h : start.addFiles entries = .ok scope) :
    scope.Holds entries ∧ scope.repository = repository ∧ scope.pullNumber = pull := by
  have hextends := extends_addFiles h
  simp only [ofDetail, bind, Except.bind] at hstart
  split at hstart
  · cases hstart
  · split at hstart
    · cases hstart
    · split at hstart
      · cases hstart
      · cases hstart
        refine ⟨⟨fun name => ?_, fun name => ?_, fun name => ?_⟩, hextends.repository,
          hextends.pullNumber⟩
        · simp [hextends.changed]
        · rw [hextends.lines]
          simp [Dict.names]
        · simp [hextends.missing]

variable {client : Client} {limits : Limits} {network : Network} {journal later : Journal}
  {scope : Scope}

theorem exists_entries_of_lookUp {repository commit : String}
    (h : (lookUp client limits repository commit).run network journal = (.ok (some scope), later)) :
    ∃ before entries, (listFiles client limits scope.repository scope.pullNumber).run network
      before = (.ok entries, later) ∧ scope.Holds entries := by
  obtain ⟨pulls, _, -, h⟩ := Session.exists_run_of_run_bind h
  obtain ⟨pull, _, -, h⟩ := Session.exists_run_of_run_bind h
  split at h
  · obtain ⟨_, _, -, h⟩ := Session.exists_run_of_run_bind h
    cases h
  · obtain ⟨detail, _, -, h⟩ := Session.exists_run_of_run_bind h
    obtain ⟨start, before, hstart, h⟩ := Session.exists_run_of_run_bind h
    obtain ⟨entries, _, hentries, h⟩ := Session.exists_run_of_run_bind h
    obtain ⟨added, _, hadded, hdone⟩ := Session.exists_run_of_run_bind h
    obtain ⟨hfiles, rfl⟩ := Session.eq_of_run_settle hadded
    cases hdone
    obtain ⟨hholds, rfl, rfl⟩ := holds_of_ofDetail (Session.eq_of_run_settle hstart).1 hfiles
    exact ⟨before, entries, hentries, hholds⟩

theorem exists_entries_of_resolve {url commit : Option String}
    (h : (resolve client limits url commit).run network journal = (.ok (some scope), later)) :
    ∃ before entries, (listFiles client limits scope.repository scope.pullNumber).run network
      before = (.ok entries, later) ∧ scope.Holds entries := by
  rw [resolve] at h
  split at h
  · cases h
  · dsimp only at h
    split at h
    · cases h
    · split at h
      · cases h
      · rw [Session.run_recover] at h
        split at h
        · cases h
        · exact exists_entries_of_lookUp h

theorem Holds.disjoint_iff {entries : List Value} (h : scope.Holds entries) :
    scope.missingPatch.Disjoint scope.changedLines.names ↔
      ¬ ∃ name, Lists entries name true ∧ Lists entries name false := by
  constructor
  · rintro hdisjoint ⟨name, hpatched, hbare⟩
    exact hdisjoint ((h.missing name).mpr hbare) ((h.lines name).mpr hpatched)
  · intro hnone name hmissing hlines
    exact hnone ⟨name, (h.lines name).mp hlines, (h.missing name).mp hmissing⟩

theorem exists_line_above (lines : List Int) : ∃ n, ∀ m ∈ lines, m < n := by
  induction lines with
  | nil => exact ⟨0, nofun⟩
  | cons m lines ih =>
    obtain ⟨n, hn⟩ := ih
    refine ⟨max n (m + 1), fun k hk => ?_⟩
    rcases List.mem_cons.mp hk with rfl | hk
    · omega
    · have := hn k hk
      omega

def bareFinding (path : String) (line : Int) : Finding :=
  ⟨"", path, line, "", "", "", .null, none, false, .null, ""⟩

/-- The lines of a file are finitely many, so that a finding on another line is not new. -/
theorem Holds.wholly_new_iff {entries : List Value} (h : scope.Holds entries) {name : String}
    (hmissing : name ∈ scope.missingPatch) :
    (∀ f : Finding, Path.normalize f.filePath = name → (classify (some scope) f).1 = true) ↔
      ¬ Lists entries name true := by
  have hbare := (h.missing name).mp hmissing
  constructor
  · intro hnew hpatched
    obtain ⟨path, hpath⟩ : ∃ path, Path.normalize path = name := by
      obtain ⟨-, fields, -, hname, -⟩ := hbare
      exact ⟨_, hname⟩
    cases hfetch : scope.changedLines.fetch name with
    | none => exact Dict.fetch_eq_none_iff.mp hfetch ((h.lines name).mpr hpatched)
    | some lines =>
      obtain ⟨n, hn⟩ := exists_line_above lines
      have hjudged := hnew (bareFinding path n) hpath
      simp only [classify, judge, bareFinding, hpath, hfetch] at hjudged
      exact absurd (hn n (by simpa using hjudged)) (lt_irrefl n)
  · intro hunpatched f hname
    have hfetch : scope.changedLines.fetch name = none :=
      Dict.fetch_eq_none_iff.mpr fun hlines => hunpatched ((h.lines name).mp hlines)
    have hchanged : scope.changedFiles.elem name = true := by
      simpa using (h.changed name).mpr ⟨false, hbare⟩
    simp only [classify, judge, hname, hfetch, hchanged, if_true]

theorem resolve_files {url commit : Option String}
    (h : (resolve client limits url commit).run network journal = (.ok (some scope), later)) :
    (∀ name ∈ scope.changedLines.names, name ∈ scope.changedFiles) ∧
    (∀ name ∈ scope.missingPatch, name ∈ scope.changedFiles) ∧
    (∀ name ∈ scope.changedFiles,
      name ∈ scope.changedLines.names ∨ name ∈ scope.missingPatch) ∧
    ∃ before entries, (listFiles client limits scope.repository scope.pullNumber).run network
        before = (.ok entries, later) ∧
      (scope.missingPatch.Disjoint scope.changedLines.names ↔
        ¬ ∃ name, Lists entries name true ∧ Lists entries name false) ∧
      ∀ name ∈ scope.missingPatch,
        ((∀ f : Finding, Path.normalize f.filePath = name → (classify (some scope) f).1 = true) ↔
          ¬ Lists entries name true) := by
  obtain ⟨before, entries, hentries, hholds⟩ := exists_entries_of_resolve h
  refine ⟨fun name hname => ?_, fun name hname => ?_, fun name hname => ?_, before, entries,
    hentries, hholds.disjoint_iff, fun name hname => hholds.wholly_new_iff hname⟩
  · exact (hholds.changed name).mpr ⟨true, (hholds.lines name).mp hname⟩
  · exact (hholds.changed name).mpr ⟨false, (hholds.missing name).mp hname⟩
  · obtain ⟨patched, hlisted⟩ := (hholds.changed name).mp hname
    cases patched with
    | false => exact Or.inr ((hholds.missing name).mpr hlisted)
    | true => exact Or.inl ((hholds.lines name).mpr hlisted)

def listingNetwork (entries : List Value) : Network := fun earlier _ =>
  .response ⟨200, .document (match earlier with
    | [] => .list [.object [("number", .int 7)]]
    | [_] => .object []
    | _ => .list entries), none⟩

def listingRun (entries : List Value) : Except Stop (Option Scope) × Journal :=
  (resolve ⟨"t", "https://api.github.com", .int 20⟩ {} (some "https://github.com/acme/shop")
    (some "c0ffee")).run (listingNetwork entries) ⟨[], []⟩

def finds (check : Scope → Bool) (run : Except Stop (Option Scope) × Journal) : Bool :=
  match run.1 with
  | .ok (some scope) => check scope
  | _ => false

theorem exists_of_finds {check : Scope → Bool} {run : Except Stop (Option Scope) × Journal}
    (h : finds check run = true) :
    ∃ scope later, run = (.ok (some scope), later) ∧ check scope = true := by
  obtain ⟨outcome, later⟩ := run
  rw [finds] at h
  split at h
  · rename_i scope heq
    exact ⟨scope, later, congrArg (·, later) heq, h⟩
  · cases h

def separateEntries : List Value := [
  .object [("filename", .str "a.py")],
  .object [("filename", .str "/b.py"), ("patch", .str "@@ -1 +2 @@\n+x")]]

theorem resolve_files_separate : ∃ scope later,
    listingRun separateEntries = (.ok (some scope), later) ∧
    scope.missingPatch = ["a.py"] ∧ scope.changedLines = [("b.py", [2])] ∧
    (∀ name ∈ scope.missingPatch, name ∈ scope.changedFiles) ∧
    ∀ name ∈ scope.changedFiles,
      name ∈ scope.changedLines.names ∨ name ∈ scope.missingPatch := by
  have hcheck : finds (fun scope =>
      scope.missingPatch = ["a.py"] && scope.changedLines = [("b.py", [2])])
        (listingRun separateEntries) = true := by
    decide +kernel
  obtain ⟨scope, later, hrun, hscope⟩ := exists_of_finds hcheck
  obtain ⟨-, hmissing, hcovered, -⟩ := resolve_files hrun
  simp only [Bool.and_eq_true, decide_eq_true_eq] at hscope
  exact ⟨scope, later, hrun, hscope.1, hscope.2, hmissing, hcovered⟩

def sharedEntries : List Value := [
  .object [("filename", .str "a.py")],
  .object [("filename", .str "/a.py"), ("patch", .str "@@ -1 +2 @@\n+x")]]

theorem resolve_files_shared : ∃ scope later,
    listingRun sharedEntries = (.ok (some scope), later) ∧
    "a.py" ∈ scope.missingPatch ∧ "a.py" ∈ scope.changedLines.names ∧
    (classify (some scope) (bareFinding "a.py" 5)).1 = false := by
  have hcheck : finds (fun scope =>
      "a.py" ∈ scope.missingPatch && "a.py" ∈ scope.changedLines.names &&
        !(classify (some scope) (bareFinding "a.py" 5)).1) (listingRun sharedEntries) = true := by
    decide +kernel
  obtain ⟨scope, later, hrun, hscope⟩ := exists_of_finds hcheck
  simp only [Bool.and_eq_true, decide_eq_true_eq, Bool.not_eq_true'] at hscope
  exact ⟨scope, later, hrun, hscope.1.1, hscope.1.2, hscope.2⟩

end DiffReach.Scope
