import DiffReach.Proofs.Host.Interruption
import DiffReach.Proofs.Json.Depth
import DiffReach.Proofs.Patch
import DiffReach.Proofs.Scope.Files
import DiffReach.Proofs.Scope.Readings

namespace DiffReach

open Host

def Limits.CountsPages (limits : Limits) : Prop :=
  limits.maxPullFilePages.whole?.isSome ∧ limits.pullFilesPerPage.whole?.isSome

theorem Value.exists_allows {limit : Value} (h : limit.whole?.isSome) (n : Int) :
    ∃ answer, limit.allows n = .ok answer := by
  cases limit with
  | int m => exact ⟨_, rfl⟩
  | bool b => exact ⟨_, rfl⟩
  | _ => cases h

namespace Scope

def IsObjectOrNull (v : Value) : Prop :=
  v = .null ∨ ∃ fields, v = .object fields

def IsListedPull (v : Value) : Prop :=
  ∃ fields : Dict Value, v = .object fields ∧ ((fields.fetch "number").getD .null = .null ∨
    ∃ n, (fields.fetch "number").getD .null = .int n)

def ArePullFields (fields : Dict Value) : Prop :=
  IsObjectOrNull ((fields.fetch "base").getD .null) ∧
    IsObjectOrNull ((fields.fetch "head").getD .null)

def IsFile (v : Value) : Prop :=
  ∃ (fields : Dict Value) (name : String), v = .object fields ∧
    fields.fetch "filename" = some (.str name) ∧ ((fields.fetch "patch").getD .null = .null ∨
      ∃ patch, fields.fetch "patch" = some (.str patch) ∧ Patch.ShortStarts patch)

structure Documented (client : Client) (network : Network) : Prop where
  pulls : ∀ repository commit, Brings network (client.pullsRequest repository commit) fun v =>
    ∃ items, v = .list items ∧ ∀ item ∈ items, IsListedPull item
  pull : ∀ repository number, Brings network (client.pullRequest repository number) fun v =>
    ∃ fields, v = .object fields ∧ ArePullFields fields
  files : ∀ repository number page perPage,
    Brings network (client.filesRequest repository number page perPage) fun v =>
      ∃ items, v = .list items ∧ ∀ item ∈ items, IsFile item

theorem Documented.of_interrupts {client : Client} {failing sound : Network}
    (hd : Documented client sound) (h : Interrupts failing sound) : Documented client failing where
  pulls repository commit := h.brings (hd.pulls repository commit)
  pull repository number := h.brings (hd.pull repository number)
  files repository number page perPage := h.brings (hd.files repository number page perPage)

theorem exists_firstPull {pulls : List Value} (h : ∀ pull ∈ pulls, IsListedPull pull) :
    ∃ number, firstPull pulls = .ok number := by
  cases pulls with
  | nil => exact ⟨0, rfl⟩
  | cons pull rest =>
    obtain ⟨fields, rfl, hnumber⟩ := h pull List.mem_cons_self
    simp only [firstPull, Value.field, bind, Except.bind]
    rcases hnumber with hnumber | ⟨n, hnumber⟩
    · rw [hnumber]
      exact ⟨0, rfl⟩
    · rw [hnumber]
      split
      · exact ⟨n, rfl⟩
      · exact ⟨0, rfl⟩

theorem exists_subObject {fields : Dict Value} {name : String}
    (h : IsObjectOrNull ((fields.fetch name).getD .null)) :
    ∃ inner, subObject fields name = .object inner := by
  rw [subObject, Value.orElse]
  split
  · rename_i htruthy
    rcases h with h | h
    · simp [h, Value.truthy] at htruthy
    · exact h
  · exact ⟨[], rfl⟩

theorem exists_ofDetail {fields : Dict Value} (h : ArePullFields fields)
    (repository commit : String) (pull : Int) :
    ∃ scope, ofDetail repository commit pull fields = .ok scope := by
  obtain ⟨base, hbase⟩ := exists_subObject h.1
  obtain ⟨head, hhead⟩ := exists_subObject h.2
  simp only [ofDetail, hbase, hhead, Value.field, bind, Except.bind]
  exact ⟨_, rfl⟩

theorem exists_addFile {entry : Value} (h : IsFile entry) (scope : Scope) :
    ∃ after, scope.addFile entry = .ok after := by
  obtain ⟨fields, name, rfl, -, hpatch⟩ := h
  simp only [addFile, Value.field, bind, Except.bind]
  split
  · exact ⟨_, rfl⟩
  · split
    · rename_i htruthy
      rcases hpatch with hpatch | ⟨patch, hpatch, hshort⟩
      · simp [hpatch, Value.truthy] at htruthy
      · obtain ⟨lines, hlines⟩ := hshort.exists_changedLines
        rw [hpatch]
        simp only [Option.getD_some, Value.text, hlines]
        exact ⟨_, rfl⟩
    · exact ⟨_, rfl⟩

theorem exists_addFiles {entries : List Value} (h : ∀ entry ∈ entries, IsFile entry)
    (scope : Scope) : ∃ after, scope.addFiles entries = .ok after := by
  induction entries generalizing scope with
  | nil => exact ⟨scope, rfl⟩
  | cons entry rest ih =>
    obtain ⟨middle, hmiddle⟩ := exists_addFile (h entry List.mem_cons_self) scope
    obtain ⟨after, hafter⟩ :=
      ih (fun entry hentry => h entry (List.mem_cons_of_mem _ hentry)) middle
    refine ⟨after, ?_⟩
    rw [addFiles, hmiddle]
    exact hafter

section Survives

variable {client : Client} {network : Network}

theorem survives_commitPulls (hd : Documented client network) (repository commit : String) :
    (client.commitPulls repository commit).Survives network
      fun pulls => ∀ pull ∈ pulls, IsListedPull pull := by
  refine Session.survives_read_map fun earlier => (hd.pulls repository commit earlier).imp_right ?_
  rintro ⟨_, hdocument, items, rfl, hitems⟩
  exact ⟨.list items, hdocument, hitems⟩

theorem survives_pull (hd : Documented client network) (repository number : String) :
    (client.pull repository number).Survives network ArePullFields := by
  refine Session.survives_read_map fun earlier => (hd.pull repository number earlier).imp_right ?_
  rintro ⟨_, hdocument, fields, rfl, hfields⟩
  exact ⟨.object fields, hdocument, hfields⟩

theorem survives_pullFiles (hd : Documented client network) (repository number : String)
    (page perPage : Value) :
    (client.pullFiles repository number page perPage).Survives network
      fun entries => ∀ entry ∈ entries, IsFile entry := by
  refine Session.survives_read_map fun earlier =>
    (hd.files repository number page perPage earlier).imp_right ?_
  rintro ⟨_, hdocument, items, rfl, hitems⟩
  exact ⟨.list items, hdocument, hitems⟩

theorem survives_listPages (hd : Documented client network) {perPage : Value}
    (hp : perPage.whole?.isSome) (repository : String) (pull pages : Int) (left : Nat)
    (page : Int) :
    (listPages client perPage repository pull pages left page).Survives network
      fun entries => ∀ entry ∈ entries, IsFile entry := by
  have hnone : ∀ entry ∈ ([] : List Value), IsFile entry := nofun
  induction left generalizing page with
  | zero => exact (Session.survives_report _).bind fun _ _ => Session.survives_pure hnone
  | succ left ih =>
    refine (survives_pullFiles hd repository (toString pull) (.int page) perPage).bind ?_
    intro batch hbatch
    split
    · exact Session.survives_pure hnone
    · obtain ⟨isLast, hlast⟩ := Value.exists_allows hp batch.length
      refine (Session.survives_settle hlast).bind fun isLast _ => ?_
      split
      · exact Session.survives_pure hbatch
      · refine (ih (page + 1)).bind fun rest hrest => Session.survives_pure fun entry hentry => ?_
        exact (List.mem_append.mp hentry).elim (hbatch entry) (hrest entry)

theorem survives_listFiles (hd : Documented client network) {limits : Limits}
    (hl : limits.CountsPages) (repository : String) (pull : Int) :
    (listFiles client limits repository pull).Survives network
      fun entries => ∀ entry ∈ entries, IsFile entry := by
  obtain ⟨pages, hpages⟩ := Option.isSome_iff_exists.mp hl.1
  rw [listFiles, hpages]
  exact survives_listPages hd hl.2 repository pull pages pages.toNat 1

theorem survives_lookUp (hd : Documented client network) {limits : Limits}
    (hl : limits.CountsPages) (repository commit : String) :
    (lookUp client limits repository commit).Survives network fun _ => True := by
  refine (survives_commitPulls hd repository commit).bind fun pulls hpulls => ?_
  obtain ⟨number, hnumber⟩ := exists_firstPull hpulls
  refine (Session.survives_settle hnumber).bind fun pull _ => ?_
  split
  · exact (Session.survives_report _).bind fun _ _ => Session.survives_pure trivial
  · refine (survives_pull hd repository (toString pull)).bind fun detail hdetail => ?_
    obtain ⟨start, hstart⟩ := exists_ofDetail hdetail repository commit pull
    refine (Session.survives_settle hstart).bind fun scope _ => ?_
    refine (survives_listFiles hd hl repository pull).bind fun entries hentries => ?_
    obtain ⟨after, hafter⟩ := exists_addFiles hentries scope
    exact (Session.survives_settle hafter).bind fun scope _ => Session.survives_pure trivial

def Unplaced (client : Client) (url commit : Option String) : Prop :=
  client.token = "" ∨ url.getD "" = "" ∨ commit.getD "" = "" ∨ commit.getD "" = localCommit ∨
    Repository.path? (url.getD "") = none

theorem run_resolve_of_unplaced {url commit : Option String} (h : Unplaced client url commit)
    (limits : Limits) (network : Network) (journal : Journal) :
    ∃ later, (resolve client limits url commit).run network journal = (.ok none, later) ∧
      later.requests = journal.requests := by
  rw [resolve]
  split
  · exact ⟨_, rfl, rfl⟩
  · rename_i htoken
    dsimp only
    split
    · exact ⟨_, rfl, rfl⟩
    · rename_i hgiven
      split
      · exact ⟨_, rfl, rfl⟩
      · rename_i repository hpath
        simp [Client.hasToken] at htoken
        simp at hgiven
        simp [Unplaced, htoken, hgiven, hpath] at h

theorem resolve_eq {url commit : Option String} {repository : String}
    (h : ¬ Unplaced client url commit) (hpath : Repository.path? (url.getD "") = some repository)
    (limits : Limits) : resolve client limits url commit =
      (lookUp client limits repository (commit.getD "")).recover (fun failure => do
        Session.report (.scopeUnavailable repository (commit.getD "") failure)
        pure none) := by
  simp only [Unplaced, not_or] at h
  obtain ⟨htoken, hurl, hcommit, hlocal, -⟩ := h
  simp [resolve, Client.hasToken, htoken, hurl, hcommit, hlocal, hpath]

theorem exists_resolve_eq {url commit : Option String} (h : ¬ Unplaced client url commit)
    (limits : Limits) : ∃ repository, resolve client limits url commit =
      (lookUp client limits repository (commit.getD "")).recover (fun failure => do
        Session.report (.scopeUnavailable repository (commit.getD "") failure)
        pure none) := by
  have hpath : Repository.path? (url.getD "") ≠ none := by
    intro hnone
    exact h (by simp [Unplaced, hnone])
  obtain ⟨repository, hpath⟩ := Option.ne_none_iff_exists'.mp hpath
  exact ⟨repository, resolve_eq h hpath limits⟩

theorem resolve_wholeOrNone {limits : Limits} (hl : limits.CountsPages)
    (hd : Documented client network) (url commit : Option String) (journal : Journal) :
    ∃ found later rs, (resolve client limits url commit).run network journal = (.ok found, later) ∧
      later.requests = journal.requests ++ transcript network journal.requests rs ∧
      Asks client limits url commit rs ∧
      (AnyFails network journal.requests rs → found = none) ∧
      (¬ AnyFails network journal.requests rs → ∀ sound, Interrupts network sound →
        ((resolve client limits url commit).run sound
          ⟨answered network journal.requests, journal.events⟩).1 = .ok found) ∧
      (Unplaced client url commit → found = none ∧ rs = []) := by
  by_cases hplaced : Unplaced client url commit
  · obtain ⟨later, hrun, hsent⟩ := run_resolve_of_unplaced hplaced limits network journal
    refine ⟨none, later, [], hrun, by simp [hsent, transcript], Or.inl rfl, fun _ => rfl,
      fun _ sound _ => ?_, fun _ => ⟨rfl, rfl⟩⟩
    obtain ⟨later', hrun', -⟩ := run_resolve_of_unplaced hplaced limits sound
      ⟨answered network journal.requests, journal.events⟩
    rw [hrun']
  · obtain ⟨repository, hresolve⟩ := exists_resolve_eq hplaced limits
    obtain ⟨rs, outcome, later, hrun, hsent, hend⟩ :=
      survives_lookUp hd hl repository (commit.getD "") journal
    have hasks {found : Option Scope} {last : Journal}
        (hlast : (resolve client limits url commit).run network journal = (.ok found, last))
        (hsame : last.requests = later.requests) : Asks client limits url commit rs :=
      (sends_resolve client limits url commit journal).kind_of_run hlast (hsame.trans hsent)
    rcases hend with ⟨hfails, failure, rfl⟩ | ⟨hfine, found, -, rfl, hsound⟩
    · obtain ⟨last, hlast, hsame⟩ : ∃ last, (resolve client limits url commit).run network journal =
          (.ok none, last) ∧ last.requests = later.requests := by
        rw [hresolve, Session.run_recover, hrun]
        exact ⟨_, rfl, rfl⟩
      exact ⟨none, last, rs, hlast, hsame.trans hsent, hasks hlast hsame, fun _ => rfl,
        fun h => absurd hfails h, fun h => absurd h hplaced⟩
    · have hlast : (resolve client limits url commit).run network journal = (.ok found, later) := by
        rw [hresolve, Session.run_recover, hrun]
      refine ⟨found, later, rs, hlast, hsent, hasks hlast rfl, fun h => absurd h hfine,
        fun _ sound hi => ?_, fun h => absurd h hplaced⟩
      obtain ⟨later', hrun', -⟩ :=
        hsound sound ⟨answered network journal.requests, journal.events⟩ hi rfl
      rw [hresolve, Session.run_recover, hrun']

end Survives

def servingNetwork : Network := fun _ r =>
  .response ⟨200, .document (match r.action, r.headers.fetch "Accept" with
    | .get (some _), _ =>
        .list [.object [("filename", .str "a.py"), ("patch", .str "@@ -1 +1 @@\n+x")]]
    | _, some (.str accept) =>
        if accept = Client.pullsAccept then .list [.object [("number", .int 7)]] else .object []
    | _, _ => .null), none⟩

def brokenNetwork : Network := fun earlier r =>
  match earlier, r.action with
  | [], _ => .breakdown .timeout "slow"
  | _, .get (some _) => .response ⟨502, .raw "", none⟩
  | _, _ => servingNetwork [] r

def servingClient : Client :=
  ⟨"t", "https://api.github.com", .int 20⟩

theorem documented_servingNetwork : Documented servingClient servingNetwork where
  pulls := by
    refine fun repository commit earlier => Or.inr ⟨_, rfl, _, rfl, fun item hitem => ?_⟩
    cases List.mem_singleton.mp hitem
    exact ⟨_, rfl, Or.inr ⟨7, rfl⟩⟩
  pull := fun repository number earlier => Or.inr ⟨_, rfl, [], rfl, Or.inl rfl, Or.inl rfl⟩
  files := by
    refine fun repository number page perPage earlier =>
      Or.inr ⟨_, rfl, _, rfl, fun item hitem => ?_⟩
    cases List.mem_singleton.mp hitem
    refine ⟨_, "a.py", rfl, rfl, Or.inr ⟨"@@ -1 +1 @@\n+x", rfl, ?_⟩⟩
    rw [Patch.ShortStarts]
    decide +kernel

theorem interrupts_brokenNetwork : Interrupts brokenNetwork servingNetwork := by
  rintro earlier ⟨url, action, headers, timeout⟩
  cases earlier with
  | nil => exact Or.inl rfl
  | cons first rest =>
    cases action with
    | post body => exact Or.inr rfl
    | get query =>
      cases query with
      | none => exact Or.inr rfl
      | some query => exact Or.inl rfl

def servingRun (network : Network) : Except Stop (Option Scope) × Journal :=
  (resolve servingClient {} (some "https://github.com/acme/shop") (some "c0ffee")).run network
    ⟨[], []⟩

theorem resolve_wholeOrNone_broken :
    finds (fun scope => scope.changedLines = [("a.py", [1])]) (servingRun servingNetwork) = true ∧
    ∃ later rs, servingRun brokenNetwork = (.ok none, later) ∧
      later.requests = transcript brokenNetwork [] rs ∧ AnyFails brokenNetwork [] rs := by
  have hwhole : finds (fun scope => scope.changedLines = [("a.py", [1])])
      (servingRun servingNetwork) = true := by
    decide +kernel
  have hbroken : (servingRun brokenNetwork).1.toOption.map Option.isNone = some true := by
    decide +kernel
  have hcounts : ({} : Limits).CountsPages := ⟨rfl, rfl⟩
  obtain ⟨found, later, rs, hrun, hsent, -, -, hsame, -⟩ := resolve_wholeOrNone hcounts
    (documented_servingNetwork.of_interrupts interrupts_brokenNetwork)
    (some "https://github.com/acme/shop") (some "c0ffee") ⟨[], []⟩
  have hfound : found = none := by
    rw [servingRun, hrun] at hbroken
    cases found with
    | none => rfl
    | some scope => cases hbroken
  subst hfound
  refine ⟨hwhole, later, rs, hrun, hsent, ?_⟩
  by_contra hfine
  obtain ⟨scope, last, hlast, -⟩ := exists_of_finds hwhole
  have hnone : (servingRun servingNetwork).1 = .ok none := hsame hfine _ interrupts_brokenNetwork
  rw [hlast] at hnone
  cases hnone

def deepText (depth : Nat) : String :=
  String.ofList ("[\x7b\"x\": ".toList ++ (List.replicate depth '[' ++
    (List.replicate depth ']' ++ ", \"number\": 42\x7d]".toList)))

def deepNetwork (depth : Nat) : Network := fun _ _ =>
  .response ⟨200, .raw (deepText depth), none⟩

theorem document_deepNetwork {depth : Nat} (h : Json.maxDepth ≤ depth) (earlier : List Request)
    (r : Request) : (deepNetwork depth earlier r).document = .error (.fault .tooDeep) := by
  have hread : (Body.raw (deepText depth)).read = .error .tooDeep :=
    Json.readWith_field_replicate Json.readerBounds h _
  rw [deepNetwork, Reply.document, if_pos (by rfl)]
  simp only [hread]

theorem exists_run_commitPulls_deepNetwork {depth : Nat} (h : Json.maxDepth ≤ depth)
    (client : Client) (repository commit : String) (journal : Journal) : ∃ later,
      (client.commitPulls repository commit).run (deepNetwork depth) journal =
        (.error (.fault .tooDeep), later) := by
  obtain ⟨later, hrun, -⟩ :=
    Client.run_read (client.pullsRequest repository commit) (deepNetwork depth) journal
  have hfinal : (finalReply (deepNetwork depth) journal.requests
      (client.pullsRequest repository commit)).document = .error (.fault .tooDeep) := by
    obtain ⟨sent, hsent⟩ := exists_finalReply_eq (deepNetwork depth) journal.requests
      (client.pullsRequest repository commit)
    rw [hsent, document_deepNetwork h]
  refine ⟨later, ?_⟩
  have hmap := Session.run_map (Client.read (client.pullsRequest repository commit)) Client.items
    (deepNetwork depth) journal
  rw [hrun, hfinal] at hmap
  exact hmap

theorem exists_run_deepNetwork {depth : Nat} (h : Json.maxDepth ≤ depth) : ∃ later,
    servingRun (deepNetwork depth) = (.error (.fault .tooDeep), later) := by
  have hplaced : ¬ Unplaced servingClient (some "https://github.com/acme/shop")
      (some "c0ffee") := by
    simp only [Unplaced]
    decide +kernel
  obtain ⟨repository, hresolve⟩ := exists_resolve_eq hplaced {}
  obtain ⟨later, hpulls⟩ :=
    exists_run_commitPulls_deepNetwork h servingClient repository "c0ffee" ⟨[], []⟩
  refine ⟨later, ?_⟩
  rw [servingRun, hresolve, Session.run_recover, lookUp, Session.run_bind, Option.getD_some, hpulls]

theorem resolve_deepNetwork : ∃ later,
    servingRun (deepNetwork 3000) = (.error (.fault .tooDeep), later) :=
  exists_run_deepNetwork (by decide)

end Scope

end DiffReach
