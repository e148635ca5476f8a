import DiffReach.Proofs.CheckRun.Conservation
import DiffReach.Proofs.Engine.Contact
import DiffReach.Proofs.Engine.Sources
import DiffReach.Proofs.Scope.WholeOrNone
import DiffReach.Proofs.Snapshot.Downloads

namespace DiffReach

open Host

namespace Host

def AgreeOnReadings (network other : Network) : Prop :=
  ∀ earlier r, r.isPost = false → other earlier r = network earlier r

end Host

namespace Session

variable {α β : Type}

def OnlyReads (session : Session α) : Prop :=
  ∀ network other, AgreeOnReadings network other →
    ∀ journal, session.run other journal = session.run network journal

theorem onlyReads_pure (a : α) : (pure a : Session α).OnlyReads :=
  fun _ _ _ _ => rfl

theorem onlyReads_settle (result : Except Fault α) : (settle result).OnlyReads := by
  intro network other h journal
  cases result <;> rfl

theorem onlyReads_report (event : Event) : (report event).OnlyReads :=
  fun _ _ _ _ => rfl

theorem OnlyReads.bind {session : Session α} {next : α → Session β} (h : session.OnlyReads)
    (hnext : ∀ a, (next a).OnlyReads) : (session >>= next).OnlyReads := by
  intro network other hagree journal
  rw [run_bind, run_bind, h network other hagree journal]
  cases session.run network journal with
  | mk outcome later =>
    cases outcome with
    | error cause => rfl
    | ok a => exact hnext a network other hagree later

theorem OnlyReads.recover {session : Session α} {handler : Failure → Session α}
    (h : session.OnlyReads) (hhandler : ∀ failure, (handler failure).OnlyReads) :
    (session.recover handler).OnlyReads := by
  intro network other hagree journal
  rw [run_recover, run_recover, h network other hagree journal]
  split
  · rename_i failure later _
    exact hhandler failure network other hagree later
  · rfl

theorem onlyReads_send {r : Request} (hr : r.isPost = false) : (send r).OnlyReads := by
  intro network other hagree journal
  rw [run_send, run_send, hagree journal.requests r hr]

theorem onlyReads_accept (reply : Reply) : (Client.accept reply).OnlyReads := by
  intro network other hagree journal
  rw [Client.run_accept, Client.run_accept]

theorem onlyReads_read {r : Request} (hr : r.isPost = false) : (Client.read r).OnlyReads := by
  refine (onlyReads_send hr).bind fun reply => ?_
  cases reply with
  | response resp => exact onlyReads_accept (.response resp)
  | breakdown kind message =>
    dsimp only
    split
    · refine (onlyReads_report _).bind fun _ => ?_
      exact (onlyReads_send hr).bind fun reply => onlyReads_accept reply
    · exact onlyReads_accept (.breakdown kind message)

theorem onlyReads_read_map {r : Request} (hr : r.isPost = false) (f : Value → α) :
    (Client.read r >>= fun v => (pure (f v) : Session α)).OnlyReads :=
  (onlyReads_read hr).bind fun v => onlyReads_pure (f v)

end Session

theorem Limits.Positive.countsPages {limits : Limits} (hl : limits.Positive) :
    limits.CountsPages := by
  have hmax : limits.maxPullFilePages = .int _ := hl.get_eq .maxPullFilePages (by decide)
  have hper : limits.pullFilesPerPage = .int _ := hl.get_eq .pullFilesPerPage (by decide)
  rw [Limits.CountsPages, hmax, hper]
  exact ⟨rfl, rfl⟩

namespace Scope

theorem onlyReads_listPages (client : Client) (perPage : Value) (repository : String)
    (pull pages : Int) (left : Nat) (page : Int) :
    (listPages client perPage repository pull pages left page).OnlyReads := by
  induction left generalizing page with
  | zero => exact (Session.onlyReads_report _).bind fun _ => Session.onlyReads_pure _
  | succ left ih =>
    refine (Session.onlyReads_read_map rfl Client.items).bind fun batch => ?_
    split
    · exact Session.onlyReads_pure _
    · refine (Session.onlyReads_settle _).bind fun isLast => ?_
      split
      · exact Session.onlyReads_pure _
      · exact (ih (page + 1)).bind fun _ => Session.onlyReads_pure _

theorem onlyReads_listFiles (client : Client) (limits : Limits) (repository : String)
    (pull : Int) : (listFiles client limits repository pull).OnlyReads := by
  rw [listFiles]
  split
  · exact onlyReads_listPages _ _ _ _ _ _ _
  · exact Session.onlyReads_settle _

theorem onlyReads_lookUp (client : Client) (limits : Limits) (repository commit : String) :
    (lookUp client limits repository commit).OnlyReads := by
  refine (Session.onlyReads_read_map rfl Client.items).bind fun pulls => ?_
  refine (Session.onlyReads_settle _).bind fun pull => ?_
  split
  · exact (Session.onlyReads_report _).bind fun _ => Session.onlyReads_pure _
  · refine (Session.onlyReads_read_map rfl Client.fields).bind fun detail => ?_
    refine (Session.onlyReads_settle _).bind fun scope => ?_
    refine (onlyReads_listFiles client limits repository pull).bind fun entries => ?_
    exact (Session.onlyReads_settle _).bind fun scope => Session.onlyReads_pure _

theorem onlyReads_resolve (client : Client) (limits : Limits) (url commit : Option String) :
    (resolve client limits url commit).OnlyReads := by
  rw [resolve]
  split
  · exact (Session.onlyReads_report _).bind fun _ => Session.onlyReads_pure _
  · dsimp only
    split
    · exact Session.onlyReads_pure _
    · split
      · exact (Session.onlyReads_report _).bind fun _ => Session.onlyReads_pure _
      · refine (onlyReads_lookUp client limits _ _).recover fun failure => ?_
        exact (Session.onlyReads_report _).bind fun _ => Session.onlyReads_pure _

theorem exists_run_resolve {client : Client} {limits : Limits} {network : Network}
    (hl : limits.CountsPages) (hd : Documented client network) (url commit : Option String)
    (journal : Journal) :
    ∃ found later, (resolve client limits url commit).run network journal = (.ok found, later) := by
  by_cases hplaced : Unplaced client url commit
  · obtain ⟨later, hrun, -⟩ := run_resolve_of_unplaced hplaced limits network journal
    exact ⟨none, later, hrun⟩
  · obtain ⟨repository, hresolve⟩ := exists_resolve_eq hplaced limits
    obtain ⟨_, outcome, later, hrun, -, hend⟩ :=
      survives_lookUp hd hl repository (commit.getD "") journal
    rw [hresolve, Session.run_recover, hrun]
    rcases hend with ⟨-, failure, rfl⟩ | ⟨-, found, -, rfl, -⟩
    · exact ⟨none, _, rfl⟩
    · exact ⟨found, later, rfl⟩

end Scope

namespace CheckRun

def HasPlainSnippet (f : Finding) : Prop :=
  f.snippet = .null ∨ ∃ s, f.snippet = .str s

theorem HasPlainSnippet.isSliceable {f : Finding} (h : HasPlainSnippet f) :
    IsSliceable f.snippet := by
  rcases h with hnull | htext
  · exact .inl (by rw [hnull]; rfl)
  · exact .inr (.inl htext)

namespace Emitter

theorem exists_run_publish (e : Emitter) (payload : Payload) (url commit : Option String) :
    ∃ posts : List Request, ∀ network,
      (∀ repository body,
        Brings network (e.client.checkRunRequest repository body) fun _ => True) →
      ∀ journal, ∃ published later, (e.publish payload url commit).run network journal =
          (.ok published, later) ∧ later.requests = journal.requests ++ posts := by
  by_cases hplaced : ∃ repository, e.Addresses url commit repository
  · obtain ⟨repository, haddress⟩ := hplaced
    refine ⟨[e.client.checkRunRequest repository
      (payload.requestBody e.name (commit.getD ""))], fun network hbrings journal => ?_⟩
    have hreply := hbrings repository (payload.requestBody e.name (commit.getD ""))
      journal.requests
    rw [publish_eq haddress, Session.run_recover, Session.run_bind, run_createCheckRun]
    rcases hreply with hfails | ⟨v, hv, -⟩
    · obtain ⟨failure, hfailure⟩ := Reply.fails_eq_true_iff.mp hfails
      rw [hfailure]
      exact ⟨false, _, rfl, rfl⟩
    · rw [hv]
      exact ⟨true, _, rfl, rfl⟩
  · refine ⟨[], fun network _ journal => ?_⟩
    obtain ⟨later, hrun, hsent⟩ :=
      run_publish_of_not (not_exists.mp hplaced) payload network journal
    exact ⟨false, later, hrun, by rw [hsent, List.append_nil]⟩

end Emitter

end CheckRun

namespace Engine

structure Documented (client : Client) (network : Network) : Prop where
  scope : Scope.Documented client network
  tree : ∀ repository commit,
    Brings network (client.treeRequest repository commit) Snapshot.IsTree
  contents : ∀ repository commit path,
    Brings network (client.contentsRequest repository (.str commit) path) Snapshot.IsContents
  checkRun : ∀ repository body,
    Brings network (client.checkRunRequest repository body) fun _ => True

section Operations

variable {client : Client} {limits : Limits} {url commit : Option String} {network : Network}
  {journal : Journal}

structure Gathers (client : Client) (limits : Limits) (url commit : Option String)
    (network : Network) (journal : Journal) (found : Sources) (judge : Finding → Verdict) :
    Prop where
  unlisted : (∀ repository, Repository.path? (url.getD "") = some repository →
      (finalReply network journal.requests
        (client.treeRequest repository (spelled commit))).fails = true) →
    found.texts = [] ∧ ∀ f, (judge f).IsNotFetched
  texts : ∀ repository, Repository.path? (url.getD "") = some repository →
    found.texts = Snapshot.textsOf (Snapshot.fetched client limits Snapshot.pythonSuffixes
      repository (spelled commit) network journal.requests)
  present : ∀ repository path, Repository.path? (url.getD "") = some repository →
    (path ∈ found.texts.names ↔ ∃ reply, (path, reply) ∈ Snapshot.fetched client limits
      Snapshot.pythonSuffixes repository (spelled commit) network journal.requests ∧
        (Snapshot.text? reply).isSome)
  absent : ∀ f : Finding,
    (∀ path ∈ found.texts.names, Path.normalize path ≠ Path.normalize f.filePath) →
      (judge f).IsNotFetched

theorem run_sourceTexts (hl : limits.Positive) (hd : Documented client network) (appUrl : String)
    {repository : String} (hpath : Repository.path? (url.getD "") = some repository)
    (commit : Option String) (journal : Journal) :
    (((create client limits appUrl).sourceTexts url commit).run network journal).1 =
      .ok (Snapshot.textsOf (Snapshot.fetched client limits Snapshot.pythonSuffixes repository
        (spelled commit) network journal.requests)) := by
  rw [sourceTexts_of_path hpath]
  exact Snapshot.run_sources_of_documented hl (hd.tree repository (spelled commit))
    (hd.contents repository (spelled commit)) journal

theorem exists_gathers (hl : limits.Positive) (hd : Documented client network) (appUrl : String)
    (url commit : Option String) (journal : Journal) :
    let e := create client limits appUrl
    ∃ found judge, ((e.snapshot url commit).run network journal).1 = .ok found ∧
      (∀ findings, ((e.verify url commit findings).run network journal).1 =
        .ok ⟨commit, (findings.take (limits.count .maxFindings)).map fun f => (f, judge f)⟩) ∧
      Gathers client limits url commit network journal found judge := by
  intro e
  cases hpath : Repository.path? (url.getD "") with
  | none =>
    have htexts : ((e.sourceTexts url commit).run network journal).1 = .ok [] :=
      run_sourceTexts_of_none hpath
    obtain ⟨found, judge, -, hsnapshot, hverify, hjust⟩ := exists_judge hl appUrl htexts
    refine ⟨_, judge, hsnapshot, hverify, fun _ => ⟨rfl, fun f => ?_⟩, ?_, ?_, fun f hf => ?_⟩
    · exact isNotFetched_of_lacks (hjust f) nofun
    · simp [hpath]
    · simp [hpath]
    · exact isNotFetched_of_lacks (hjust f) hf
  | some repository =>
    have htexts := run_sourceTexts hl hd appUrl hpath commit journal
    obtain ⟨found, judge, -, hsnapshot, hverify, hjust⟩ := exists_judge hl appUrl htexts
    refine ⟨_, judge, hsnapshot, hverify, fun hfails => ?_, ?_, ?_, fun f hf => ?_⟩
    · have hnone := Snapshot.fetched_of_fails limits Snapshot.pythonSuffixes
        (hfails repository hpath)
      have hempty : Snapshot.textsOf (Snapshot.fetched client limits Snapshot.pythonSuffixes
          repository (spelled commit) network journal.requests) = [] := by
        rw [hnone]
        rfl
      refine ⟨hempty, fun f => isNotFetched_of_lacks (hjust f) ?_⟩
      intro path hmem
      rw [Evidence.ofScan, hempty] at hmem
      cases hmem
    · rintro _ hsame
      obtain rfl := Option.some.inj (hpath.symm.trans hsame)
      rfl
    · rintro _ path hsame
      obtain rfl := Option.some.inj (hpath.symm.trans hsame)
      exact Snapshot.mem_names_textsOf
    · exact isNotFetched_of_lacks (hjust f) hf

theorem exists_run_annotate (hl : limits.Positive) (hd : Documented client network)
    (appUrl : String) (url commit : Option String) {findings : List Finding}
    (hf : ∀ f ∈ findings, CheckRun.HasPlainSnippet f) (passed : Bool) (scanId : String)
    (publish : Bool) (journal : Journal) :
    let e := create client limits appUrl
    ∃ payload published later,
      (e.annotate url commit findings passed scanId publish).run network journal =
        (.ok (payload, published), later) ∧
      ∀ other, AgreeOnReadings network other →
        (∀ repository body,
          Brings other (client.checkRunRequest repository body) fun _ => True) →
        ∃ published' later',
          (e.annotate url commit findings passed scanId publish).run other journal =
            (.ok (payload, published'), later') ∧ later'.requests = later.requests := by
  intro e
  obtain ⟨scope, middle, hscope⟩ :=
    Scope.exists_run_resolve hl.countsPages hd.scope url commit journal
  obtain ⟨payload, hbuild⟩ := CheckRun.exists_build_of_isSliceable (e := e.emitter) hl
    (fun f hmem => (hf f hmem).isSliceable) passed scope scanId
  obtain ⟨posts, hposts⟩ : ∃ posts : List Request, ∀ network,
      (∀ repository body, Brings network (client.checkRunRequest repository body) fun _ => True) →
        ∃ published later, (if publish then e.emitter.publish payload url commit
          else pure false).run network middle = (.ok published, later) ∧
            later.requests = middle.requests ++ posts := by
    cases publish with
    | false => exact ⟨[], fun network _ => ⟨false, middle, rfl, by simp⟩⟩
    | true =>
      obtain ⟨posts, hposts⟩ := e.emitter.exists_run_publish payload url commit
      exact ⟨posts, fun network hbrings => hposts network hbrings middle⟩
  obtain ⟨published, later, hpublish, hsent⟩ := hposts network hd.checkRun
  refine ⟨payload, published, later, run_annotate hscope hbuild hpublish, ?_⟩
  intro other hagree hbrings
  obtain ⟨published', later', hpublish', hsent'⟩ := hposts other hbrings
  have hscope' : (e.scope url commit).run other journal = (.ok scope, middle) := by
    rw [← hscope]
    exact Scope.onlyReads_resolve client limits url commit network other hagree journal
  exact ⟨published', later', run_annotate hscope' hbuild hpublish', hsent'.trans hsent.symm⟩

theorem operations_return (hl : limits.Positive) (hd : Documented client network)
    (appUrl : String) (url commit : Option String) (journal : Journal) :
    let e := create client limits appUrl
    (∃ scope, ((e.scope url commit).run network journal).1 = .ok scope) ∧
    (∃ found judge, ((e.snapshot url commit).run network journal).1 = .ok found ∧
      (∀ findings, ((e.verify url commit findings).run network journal).1 =
        .ok ⟨commit, (findings.take (limits.count .maxFindings)).map fun f => (f, judge f)⟩) ∧
      Gathers client limits url commit network journal found judge) ∧
    ∀ findings, (∀ f ∈ findings, CheckRun.HasPlainSnippet f) → ∀ passed scanId publish,
      ∃ payload published later,
        (e.annotate url commit findings passed scanId publish).run network journal =
          (.ok (payload, published), later) ∧
        ∀ other, AgreeOnReadings network other →
          (∀ repository body,
            Brings other (client.checkRunRequest repository body) fun _ => True) →
          ∃ published' later',
            (e.annotate url commit findings passed scanId publish).run other journal =
              (.ok (payload, published'), later') ∧ later'.requests = later.requests := by
  intro e
  refine ⟨?_, exists_gathers hl hd appUrl url commit journal, ?_⟩
  · obtain ⟨scope, later, hscope⟩ :=
      Scope.exists_run_resolve hl.countsPages hd.scope url commit journal
    exact ⟨scope, congrArg Prod.fst hscope⟩
  · intro findings hf passed scanId publish
    exact exists_run_annotate hl hd appUrl url commit hf passed scanId publish journal

end Operations

theorem documented_relayNetwork (whole : Bool) : Documented relayClient (relayNetwork whole) where
  scope := {
    pulls := fun _ _ _ => Or.inl rfl
    pull := fun _ _ _ => Or.inl rfl
    files := fun _ _ _ perPage _ => by cases perPage <;> exact Or.inl rfl }
  tree _ _ _ := Or.inr ⟨relayTree, rfl, Snapshot.isTree_relayTree⟩
  contents _ _ _ _ := isContents_relayFile whole _
  checkRun _ _ _ := Or.inl rfl

theorem operations_return_relay :
    ({} : Limits).Positive ∧ Documented relayClient (relayNetwork false) ∧
    ∃ (found : Sources) (judge : Finding → Verdict),
      (((create relayClient {} "").snapshot relayUrl (some "c0ffee")).run (relayNetwork false)
        ⟨[], []⟩).1 = .ok found ∧
      (((create relayClient {} "").verify relayUrl (some "c0ffee") [relayFinding "a.py"]).run
        (relayNetwork false) ⟨[], []⟩).1 =
          .ok ⟨some "c0ffee", [(relayFinding "a.py", judge (relayFinding "a.py"))]⟩ ∧
      found.texts.names = ["b.py"] ∧ (judge (relayFinding "a.py")).IsNotFetched := by
  refine ⟨Limits.positive_default, documented_relayNetwork false, ?_⟩
  obtain ⟨-, ⟨found, judge, hsnapshot, hverify, hgathers⟩, -⟩ :=
    operations_return Limits.positive_default (documented_relayNetwork false) "" relayUrl
      (some "c0ffee") ⟨[], []⟩
  have hnames : found.texts.names = ["b.py"] := by
    rw [hgathers.texts "acme/shop" path?_relayUrl]
    decide +kernel
  refine ⟨found, judge, hsnapshot, hverify _, hnames, hgathers.absent _ fun path hpath => ?_⟩
  rw [hnames, List.mem_singleton] at hpath
  subst hpath
  decide +kernel

section Deep

variable {depth : Nat}

theorem exists_run_tree_deepNetwork (h : Json.maxDepth ≤ depth) (client : Client)
    (limits : Limits) (suffixes : List String) (repository commit : String) (journal : Journal) :
    ∃ later, (Snapshot.tree client limits suffixes repository commit).run
      (Scope.deepNetwork depth) journal = (.error (.fault .tooDeep), later) := by
  have hreading : client.tree repository commit = (do
      let v ← Client.read (client.treeRequest repository commit)
      pure (Client.fields v)) := rfl
  obtain ⟨later, hfields, -⟩ := Snapshot.run_recover_read hreading
    (.treeUnavailable repository commit) (Scope.deepNetwork depth) journal
  obtain ⟨sent, hsent⟩ := exists_finalReply_eq (Scope.deepNetwork depth) journal.requests
    (client.treeRequest repository commit)
  rw [hsent, Snapshot.replyFields, Scope.document_deepNetwork h] at hfields
  refine ⟨later, ?_⟩
  rw [Snapshot.tree, Snapshot.treeFields, Session.run_bind, hfields]

theorem exists_run_snapshot_deepNetwork (h : Json.maxDepth ≤ depth) (e : Engine)
    (commit : Option String) (journal : Journal) :
    ∃ later, (e.snapshot relayUrl commit).run (Scope.deepNetwork depth) journal =
      (.error (.fault .tooDeep), later) := by
  obtain ⟨later, htree⟩ := exists_run_tree_deepNetwork h e.client e.limits Snapshot.pythonSuffixes
    "acme/shop" (spelled commit) journal
  refine ⟨later, ?_⟩
  rw [snapshot_eq, sourceTexts_of_path path?_relayUrl, Session.run_bind, Snapshot.sources,
    Session.run_bind, htree]

theorem exists_run_verify_deepNetwork (h : Json.maxDepth ≤ depth) (e : Engine)
    (commit : Option String) (findings : List Finding) (journal : Journal) :
    ∃ later, (e.verify relayUrl commit findings).run (Scope.deepNetwork depth) journal =
      (.error (.fault .tooDeep), later) := by
  obtain ⟨later, hsnapshot⟩ := exists_run_snapshot_deepNetwork h e commit journal
  refine ⟨later, ?_⟩
  rw [verify, Session.run_bind, hsnapshot]

end Deep

def tornPath : Text.Torn :=
  ⟨[0xD800, 0x2E, 0x70, 0x79], by decide⟩

def tornNetwork : Network := fun _ _ =>
  .response ⟨200, .document (.object [("tree", .list [.object [("type", .str "blob"),
    ("path", .torn tornPath)]])]), none⟩

theorem exists_run_snapshot_tornNetwork : ∃ later,
    ((create relayClient {} "").snapshot relayUrl (some "c0ffee")).run tornNetwork ⟨[], []⟩ =
      (.error (.fault .unencodable), later) := by
  have hcontents (path : String) : Brings tornNetwork
      (relayClient.contentsRequest "acme/shop" (.str "c0ffee") path) Snapshot.IsContents :=
    fun _ => Or.inr ⟨_, rfl, _, rfl, Or.inl rfl⟩
  have htree : (Snapshot.tree relayClient {} Snapshot.pythonSuffixes "acme/shop" "c0ffee").run
      tornNetwork ⟨[], []⟩ = (.ok [.torn tornPath], _) := rfl
  obtain ⟨later, hsources⟩ := Snapshot.exists_run_sources_of_torn Limits.positive_default hcontents
    htree (List.mem_singleton_self _)
  refine ⟨later, ?_⟩
  rw [snapshot_eq, sourceTexts_of_path path?_relayUrl, Session.run_bind]
  exact hsources ▸ rfl

/-- A body that is given up on and a path that cannot be asked for are no failed requests, so
nothing recovers from them. -/
theorem operations_unrecovered :
    (∃ later, ((create relayClient {} "").snapshot relayUrl (some "c0ffee")).run
      (Scope.deepNetwork 3000) ⟨[], []⟩ = (.error (.fault .tooDeep), later)) ∧
    (∃ later, ((create relayClient {} "").verify relayUrl (some "c0ffee")
      [relayFinding "a.py"]).run (Scope.deepNetwork 3000) ⟨[], []⟩ =
        (.error (.fault .tooDeep), later)) ∧
    (∃ later, ((create relayClient {} "").snapshot relayUrl (some "c0ffee")).run tornNetwork
      ⟨[], []⟩ = (.error (.fault .unencodable), later)) ∧
    ∃ later, ((create relayClient {} "").verify relayUrl (some "c0ffee")
      [relayFinding "a.py"]).run tornNetwork ⟨[], []⟩ = (.error (.fault .unencodable), later) := by
  obtain ⟨later, htorn⟩ := exists_run_snapshot_tornNetwork
  refine ⟨exists_run_snapshot_deepNetwork (by decide) _ _ _,
    exists_run_verify_deepNetwork (by decide) _ _ _ _, ⟨later, htorn⟩, later, ?_⟩
  rw [verify, Session.run_bind, htorn]

end Engine

end DiffReach
