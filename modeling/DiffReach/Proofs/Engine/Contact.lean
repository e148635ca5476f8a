import DiffReach.Engine
import DiffReach.Proofs.Scope.Readings
import DiffReach.Proofs.Snapshot.Readings

namespace DiffReach

open Host

namespace CheckRun.Emitter

def Addresses (e : Emitter) (url commit : Option String) (repository : String) : Prop :=
  e.client.token ≠ "" ∧ Repository.path? (url.getD "") = some repository ∧
    commit.getD "" ≠ "" ∧ commit.getD "" ≠ Scope.localCommit

variable {e : Emitter} {url commit : Option String}

theorem publish_eq {repository : String} (h : e.Addresses url commit repository)
    (payload : Payload) : e.publish payload url commit = Session.recover (do
      let _ ← e.client.createCheckRun repository (payload.requestBody e.name (commit.getD ""))
      pure true) (fun failure => do
        Session.report (.publishFailed repository (commit.getD "") failure)
        pure false) := by
  obtain ⟨htoken, hpath, hempty, hlocal⟩ := h
  have hcan : ¬ (!e.client.hasToken) = true := by simp [Client.hasToken, htoken]
  have hpushed : ¬ (commit.getD "" = "" || commit.getD "" = Scope.localCommit) = true := by
    simp [hempty, hlocal]
  rw [publish, if_neg hcan]
  simp only [hpath]
  rw [if_neg hpushed]

theorem run_createCheckRun (repository : String) (body : Value) (network : Network)
    (journal : Journal) : (e.client.createCheckRun repository body).run network journal =
      ((network journal.requests (e.client.checkRunRequest repository body)).document,
        { journal with
          requests := journal.requests ++ [e.client.checkRunRequest repository body] }) :=
  Client.run_accept _ _ _

theorem run_publish {repository : String} (h : e.Addresses url commit repository)
    (payload : Payload) (network : Network) (journal : Journal) :
    let post := e.client.checkRunRequest repository (payload.requestBody e.name (commit.getD ""))
    ∃ outcome later, (e.publish payload url commit).run network journal = (outcome, later) ∧
      later.requests = journal.requests ++ [post] ∧
      (outcome = .ok true ↔ ∃ v, (network journal.requests post).document = .ok v) := by
  intro post
  rw [publish_eq h, Session.run_recover, Session.run_bind, run_createCheckRun]
  cases (network journal.requests post).document with
  | ok v => exact ⟨_, _, rfl, rfl, fun _ => ⟨v, rfl⟩, fun _ => rfl⟩
  | error cause =>
    cases cause with
    | failure failure => exact ⟨_, _, rfl, rfl, nofun, nofun⟩
    | fault fault => exact ⟨_, _, rfl, rfl, nofun, nofun⟩

theorem run_publish_of_not (h : ∀ repository, ¬ e.Addresses url commit repository)
    (payload : Payload) (network : Network) (journal : Journal) :
    ∃ later, (e.publish payload url commit).run network journal = (.ok false, later) ∧
      later.requests = journal.requests := by
  rw [publish]
  split
  · exact ⟨_, rfl, rfl⟩
  · rename_i htoken
    dsimp only
    split
    · exact ⟨_, rfl, rfl⟩
    · rename_i repository hpath
      split
      · exact ⟨_, rfl, rfl⟩
      · rename_i hcommit
        refine absurd ⟨?_, hpath, ?_⟩ (h repository)
        · simpa [Client.hasToken] using htoken
        · simpa using hcommit

end CheckRun.Emitter

theorem silent_firstFindings (limits : Limits) (findings : List Finding) :
    (firstFindings limits findings).Silent := by
  refine (Session.silent_settle _).bind fun isOver => ?_
  cases isOver with
  | false => exact Session.silent_pure _
  | true => exact (Session.silent_report _).bind fun _ => Session.silent_settle _

theorem Evidence.silent_verify (e : Evidence) (limits : Limits) (findings : List Finding) :
    (e.verify limits findings).Silent := by
  refine (Session.silent_settle _).bind fun shown => ?_
  exact (silent_firstFindings limits findings).bind fun chosen => Session.silent_settle _

inductive Operation where
  | scope (url commit : Option String)
  | snapshot (url commit : Option String)
  | verify (url commit : Option String) (findings : List Finding)
  | annotate (url commit : Option String) (findings : List Finding) (passed : Bool)
      (scanId : String) (publish : Bool)

inductive Answer where
  | scope (scope : Option Scope)
  | sources (found : Sources)
  | report (report : Report)
  | checkRun (payload : CheckRun.Payload) (published : Bool)

structure Step where
  operation : Operation
  order : Order
  before : Journal
  outcome : Except Stop Answer
  after : Journal

namespace Engine

def perform (e : Engine) (operation : Operation) (order : Order := .inTurn) : Session Answer :=
  match operation with
  | .scope url commit => do
      let found ← e.scope url commit
      pure (.scope found)
  | .snapshot url commit => do
      let found ← e.snapshot url commit (Snapshot.fetchIn e.client order)
      pure (.sources found)
  | .verify url commit findings => do
      let found ← e.verify url commit findings (Snapshot.fetchIn e.client order)
      pure (.report found)
  | .annotate url commit findings passed scanId publish => do
      let (payload, published) ← e.annotate url commit findings passed scanId publish
      pure (.checkRun payload published)

def step (e : Engine) (network : Network) (journal : Journal) (operation : Operation)
    (order : Order) : Step where
  operation
  order
  before := journal
  outcome := ((e.perform operation order).run network journal).1
  after := ((e.perform operation order).run network journal).2

/-- The steps of a sequence of operations, which goes on whatever becomes of each. -/
def steps (e : Engine) (network : Network) : Journal → List (Operation × Order) → List Step
  | _, [] => []
  | journal, (operation, order) :: rest =>
      let first := e.step network journal operation order
      first :: e.steps network first.after rest

/-- The readings that an operation may make one after another, and those of files after them. -/
def Asks (e : Engine) (network : Network) (journal : Journal) :
    Operation → List Request → List Request → Prop
  | .scope url commit, rs, files | .annotate url commit _ _ _ _, rs, files =>
      files = [] ∧ Scope.Asks e.client e.limits url commit rs
  | .snapshot url commit, rs, files | .verify url commit _, rs, files =>
      rs = [] ∧ files = [] ∨ ∃ repository, Repository.path? (url.getD "") = some repository ∧
        Snapshot.Asks e.client e.limits Snapshot.pythonSuffixes repository (spelled commit) network
          journal rs files

/-- An operation has a check run to create: it publishes, there is a place for the check run, the
scope is known one way or the other and the check run is built. -/
def Creates (e : Engine) (network : Network) (journal : Journal) : Operation → Request → Prop
  | .annotate url commit findings passed scanId publish, post =>
      publish = true ∧ ∃ repository scope later payload,
        e.emitter.Addresses url commit repository ∧
        (e.scope url commit).run network journal = (.ok scope, later) ∧
        e.emitter.build passed (classify findings scope) scope scanId = .ok payload ∧
        post = e.emitter.client.checkRunRequest repository
          (payload.requestBody e.emitter.name (commit.getD ""))
  | _, _ => False

variable {e : Engine} {network : Network}

theorem silent_scan (texts : Dict String) : (do
    let found ← Session.settle (e.scan texts)
    Session.report (.graphBuilt found.graph.edges.length found.extraction.entrypoints.length)
    pure found : Session Sources).Silent :=
  (Session.silent_settle _).bind fun _ =>
    (Session.silent_report _).bind fun _ => Session.silent_pure _

theorem sendsIn_snapshot_of_path {url : Option String} {repository : String}
    (h : Repository.path? (url.getD "") = some repository) (commit : Option String) (order : Order)
    (journal : Journal) :
    (e.snapshot url commit (Snapshot.fetchIn e.client order)).SendsIn order network journal
      (Snapshot.Asks e.client e.limits Snapshot.pythonSuffixes repository (spelled commit) network
        journal) := by
  rw [snapshot, h]
  exact Session.SendsIn.bind_silent (Snapshot.sendsIn_sources e.client e.limits
    Snapshot.pythonSuffixes repository (spelled commit) order journal) silent_scan

theorem sendsIn_snapshot (url commit : Option String) (order : Order) (journal : Journal) :
    (e.snapshot url commit (Snapshot.fetchIn e.client order)).SendsIn order network journal
      (e.Asks network journal (.snapshot url commit)) := by
  cases hpath : Repository.path? (url.getD "") with
  | none =>
    rw [snapshot, hpath]
    have hsilent := (Session.silent_report (.snapshotWithoutRepository (spelled url))).bind
      fun _ => (Session.silent_pure []).bind (silent_scan (e := e))
    refine Session.SendsAt.sendsIn ((hsilent.sends journal).mono fun rs hrs => ?_) order
    exact Or.inl ⟨hrs, rfl⟩
  | some repository =>
    refine (sendsIn_snapshot_of_path hpath commit order journal).mono fun rs files hasks => ?_
    exact Or.inr ⟨repository, hpath, hasks⟩

theorem sendsIn_verify (url commit : Option String) (findings : List Finding) (order : Order)
    (journal : Journal) :
    (e.verify url commit findings (Snapshot.fetchIn e.client order)).SendsIn order network journal
      (e.Asks network journal (.verify url commit findings)) := by
  refine (sendsIn_snapshot url commit order journal).bind_silent fun found => ?_
  exact (Evidence.silent_verify _ _ _).bind fun verdicts => Session.silent_pure _

/-- What a step sends: readings that the operation may make, those of files in the order of the
step, and then at most one request, which creates the check run that there is to create. -/
structure Contact (e : Engine) (network : Network) (step : Step)
    (rs files reads posts : List Request) : Prop where
  asks : e.Asks network step.before step.operation rs files
  arranged : ∃ sent, reads = transcript network step.before.requests rs ++ sent ∧
    step.order.Arranges network
      (step.before.requests ++ transcript network step.before.requests rs) files sent
  sent : step.after.requests = step.before.requests ++ reads ++ posts
  once : posts.length ≤ 1
  creates : ∀ post, post ∈ posts ↔ e.Creates network step.before step.operation post
  published : (∃ payload, step.outcome = .ok (.checkRun payload true)) ↔ ∃ post ∈ posts, ∃ r v,
    network (step.before.requests ++ reads) post = .response r ∧
      ¬ (400 ≤ r.status ∧ r.status ≤ 599) ∧ r.body.read = .ok v

theorem contact_of_readings {operation : Operation} {order : Order} {journal later : Journal}
    {outcome : Except Stop Answer} {rs files sent : List Request}
    (hrun : (e.perform operation order).run network journal = (outcome, later))
    (hasks : e.Asks network journal operation rs files)
    (harranged : order.Arranges network
      (journal.requests ++ transcript network journal.requests rs) files sent)
    (hsent : later.requests =
      journal.requests ++ (transcript network journal.requests rs ++ sent))
    (hcreates : ∀ post, ¬ e.Creates network journal operation post)
    (hunpublished : ∀ payload, outcome ≠ .ok (.checkRun payload true)) :
    e.Contact network (e.step network journal operation order) rs files
      (transcript network journal.requests rs ++ sent) [] where
  asks := hasks
  arranged := ⟨sent, rfl, harranged⟩
  sent := by rw [step, hrun, List.append_nil, hsent]
  once := Nat.zero_le 1
  creates post := ⟨fun h => absurd h List.not_mem_nil, fun h => absurd h (hcreates post)⟩
  published := by
    rw [step, hrun]
    exact ⟨fun ⟨payload, h⟩ => absurd h (hunpublished payload),
      fun ⟨_, h, _⟩ => absurd h List.not_mem_nil⟩

theorem exists_contact_of_sendsIn {α : Type} {session : Session α} {f : α → Answer}
    {operation : Operation} {order : Order} {journal : Journal}
    (hperform : e.perform operation order = session >>= fun a => pure (f a))
    (hsends : session.SendsIn order network journal (e.Asks network journal operation))
    (hcreates : ∀ post, ¬ e.Creates network journal operation post)
    (hf : ∀ a payload, f a ≠ .checkRun payload true) :
    ∃ rs files reads posts,
      e.Contact network (e.step network journal operation order) rs files reads posts := by
  obtain ⟨rs, files, sent, hasks, harranged, hsent⟩ := hsends
  rw [List.append_assoc] at hsent
  have hrun := Session.run_map session f network journal
  rw [← hperform] at hrun
  refine ⟨rs, files, _, [], contact_of_readings hrun hasks harranged hsent hcreates
    fun payload houtcome => ?_⟩
  cases hresult : (session.run network journal).1 with
  | error cause =>
    rw [hresult] at houtcome
    cases houtcome
  | ok a =>
    rw [hresult] at houtcome
    exact hf a payload (Except.ok.inj houtcome)

theorem sendsIn_scope (url commit : Option String) (order : Order) (journal : Journal) :
    (e.scope url commit).SendsIn order network journal
      (e.Asks network journal (.scope url commit)) := by
  refine Session.SendsAt.sendsIn (((Scope.sends_resolve e.client e.limits url commit) journal).mono
    fun rs hrs => ?_) order
  exact ⟨rfl, hrs⟩

section Annotate

variable {url commit : Option String} {findings : List Finding} {passed publish : Bool}
  {scanId : String} {order : Order} {journal later : Journal}

theorem perform_annotate_of_error {cause : Stop}
    (hscope : (e.scope url commit).run network journal = (.error cause, later)) :
    (e.perform (.annotate url commit findings passed scanId publish) order).run network journal =
      (.error cause, later) := by
  simp only [perform, annotate, Session.run_bind, hscope]

theorem perform_annotate_of_unbuilt {scope : Option Scope} {fault : Fault}
    (hscope : (e.scope url commit).run network journal = (.ok scope, later))
    (hbuild : e.emitter.build passed (classify findings scope) scope scanId = .error fault) :
    (e.perform (.annotate url commit findings passed scanId publish) order).run network journal =
      (.error (.fault fault), later) := by
  simp only [perform, annotate, Session.run_bind, hscope, hbuild]
  rfl

theorem perform_annotate {scope : Option Scope} {payload : CheckRun.Payload}
    {outcome : Except Stop Bool} {last : Journal}
    (hscope : (e.scope url commit).run network journal = (.ok scope, later))
    (hbuild : e.emitter.build passed (classify findings scope) scope scanId = .ok payload)
    (hpublish : (if publish then e.emitter.publish payload url commit else pure false).run network
      later = (outcome, last)) :
    (e.perform (.annotate url commit findings passed scanId publish) order).run network journal =
      (outcome.map (.checkRun payload), last) := by
  simp only [perform, annotate, Session.run_bind, hscope, hbuild, Session.run_settle_ok]
  cases publish with
  | false =>
    cases hpublish
    rfl
  | true =>
    simp only [if_true] at hpublish ⊢
    rw [Session.run_bind, hpublish]
    cases outcome <;> rfl

theorem contact_of_publish {rs : List Request} {repository : String} {scope : Option Scope}
    {payload : CheckRun.Payload} (hasks : Scope.Asks e.client e.limits url commit rs)
    (hsent : later.requests = journal.requests ++ transcript network journal.requests rs)
    (hscope : (e.scope url commit).run network journal = (.ok scope, later))
    (hbuild : e.emitter.build passed (classify findings scope) scope scanId = .ok payload)
    (haddress : e.emitter.Addresses url commit repository) :
    e.Contact network
      (e.step network journal (.annotate url commit findings passed scanId true) order) rs []
      (transcript network journal.requests rs)
      [e.emitter.client.checkRunRequest repository
        (payload.requestBody e.emitter.name (commit.getD ""))] := by
  obtain ⟨outcome, last, hpublish, hposted, hpublished⟩ :=
    CheckRun.Emitter.run_publish haddress payload network later
  have hrun : (e.perform (.annotate url commit findings passed scanId true) order).run network
      journal = (outcome.map (.checkRun payload), last) :=
    perform_annotate hscope hbuild hpublish
  have harranged := order.arranges_transcript network
    (journal.requests ++ transcript network journal.requests rs) []
  refine ⟨⟨rfl, hasks⟩, ⟨[], (List.append_nil _).symm, harranged⟩, ?_, Nat.le_refl 1,
    fun post => ?_, ?_⟩
  · rw [step, hrun, hposted, hsent]
  · rw [List.mem_singleton]
    constructor
    · rintro rfl
      exact ⟨rfl, repository, scope, later, payload, haddress, hscope, hbuild, rfl⟩
    · rintro ⟨-, repository', scope', later', payload', haddress', hscope', hbuild', rfl⟩
      cases hscope.symm.trans hscope'
      cases hbuild.symm.trans hbuild'
      cases haddress.2.1.symm.trans haddress'.2.1
      rfl
  · rw [step, hrun]
    simp only [List.mem_singleton, exists_eq_left]
    rw [exists_comm]
    simp only [← Reply.document_eq_ok_iff]
    rw [← hsent, ← hpublished]
    cases outcome with
    | error cause => exact ⟨nofun, nofun⟩
    | ok published => simp [Except.map]

theorem exists_run_unpublished
    (h : ¬ (publish = true ∧ ∃ repository, e.emitter.Addresses url commit repository))
    (payload : CheckRun.Payload) (network : Network) (journal : Journal) :
    ∃ last, (if publish then e.emitter.publish payload url commit else pure false).run network
        journal = (.ok false, last) ∧ last.requests = journal.requests := by
  cases publish with
  | false => exact ⟨journal, rfl, rfl⟩
  | true =>
    exact CheckRun.Emitter.run_publish_of_not (fun repository haddress =>
      h ⟨rfl, repository, haddress⟩) payload network journal

theorem exists_contact_annotate (url commit : Option String) (findings : List Finding)
    (passed : Bool) (scanId : String) (publish : Bool) (order : Order) (journal : Journal) :
    ∃ rs files reads posts, e.Contact network
      (e.step network journal (.annotate url commit findings passed scanId publish) order) rs files
        reads posts := by
  have hsends : (e.scope url commit).SendsAt network journal
      (Scope.Asks e.client e.limits url commit) :=
    Scope.sends_resolve e.client e.limits url commit journal
  obtain ⟨rs, hasks, hsent⟩ := hsends
  have harranged := order.arranges_transcript network
    (journal.requests ++ transcript network journal.requests rs) []
  have hwhole : (e.scope url commit |>.run network journal).2.requests =
      journal.requests ++ (transcript network journal.requests rs ++ []) := by
    rw [hsent, List.append_nil]
  cases hscope : (e.scope url commit).run network journal with
  | mk outcome later =>
    rw [hscope] at hsent hwhole
    cases outcome with
    | error cause =>
      refine ⟨rs, [], _, [], contact_of_readings (perform_annotate_of_error hscope) ⟨rfl, hasks⟩
        harranged hwhole ?_ nofun⟩
      rintro post ⟨-, _, _, _, _, -, hfound, -⟩
      cases hscope.symm.trans hfound
    | ok scope =>
      cases hbuild : e.emitter.build passed (classify findings scope) scope scanId with
      | error fault =>
        refine ⟨rs, [], _, [], contact_of_readings (perform_annotate_of_unbuilt hscope hbuild)
          ⟨rfl, hasks⟩ harranged hwhole ?_ nofun⟩
        rintro post ⟨-, _, _, _, _, -, hfound, hbuilt, -⟩
        cases hscope.symm.trans hfound
        cases hbuild.symm.trans hbuilt
      | ok payload =>
        by_cases hgoes : publish = true ∧ ∃ repository, e.emitter.Addresses url commit repository
        · obtain ⟨rfl, repository, haddress⟩ := hgoes
          exact ⟨rs, [], _, _, contact_of_publish hasks hsent hscope hbuild haddress⟩
        · obtain ⟨last, hpublish, hsame⟩ := exists_run_unpublished hgoes payload network later
          refine ⟨rs, [], _, [], contact_of_readings (perform_annotate hscope hbuild hpublish)
            ⟨rfl, hasks⟩ harranged (hsame.trans hwhole) ?_ nofun⟩
          rintro post ⟨hpublishes, repository, _, _, _, haddress, -⟩
          exact hgoes ⟨hpublishes, repository, haddress⟩

end Annotate

theorem exists_contact_step (e : Engine) (network : Network) (journal : Journal)
    (operation : Operation) (order : Order) : ∃ rs files reads posts,
      e.Contact network (e.step network journal operation order) rs files reads posts := by
  cases operation with
  | scope url commit =>
    exact exists_contact_of_sendsIn rfl (sendsIn_scope url commit order journal) (fun _ => id) nofun
  | snapshot url commit =>
    exact exists_contact_of_sendsIn rfl (sendsIn_snapshot url commit order journal) (fun _ => id)
      nofun
  | verify url commit findings =>
    exact exists_contact_of_sendsIn rfl (sendsIn_verify url commit findings order journal)
      (fun _ => id) nofun
  | annotate url commit findings passed scanId publish =>
    exact exists_contact_annotate url commit findings passed scanId publish order journal

theorem exists_step_of_mem_steps {journal : Journal} {operations : List (Operation × Order)}
    {step : Step} (h : step ∈ e.steps network journal operations) :
    ∃ journal operation order, step = e.step network journal operation order := by
  induction operations generalizing journal with
  | nil => cases h
  | cons first rest ih =>
    rcases List.mem_cons.mp h with rfl | h
    · exact ⟨journal, first.1, first.2, rfl⟩
    · exact ih h

theorem Asks.isPost_eq_false {journal : Journal} {operation : Operation} {rs files : List Request}
    (h : e.Asks network journal operation rs files) :
    (∀ r ∈ rs, r.isPost = false) ∧ ∀ r ∈ files, r.isPost = false := by
  cases operation with
  | scope url commit | annotate url commit findings passed scanId publish =>
    obtain ⟨rfl, hrs⟩ := h
    exact ⟨fun r => hrs.isPost_eq_false, fun r hr => absurd hr List.not_mem_nil⟩
  | snapshot url commit | verify url commit findings =>
    rcases h with ⟨rfl, rfl⟩ | ⟨repository, -, h⟩
    · exact ⟨fun r hr => absurd hr List.not_mem_nil, fun r hr => absurd hr List.not_mem_nil⟩
    · exact h.isPost_eq_false

theorem Contact.isPost_eq_false {step : Step} {rs files reads posts : List Request}
    (h : e.Contact network step rs files reads posts) {r : Request} (hr : r ∈ reads) :
    r.isPost = false := by
  obtain ⟨hrs, hfiles⟩ := h.asks.isPost_eq_false
  obtain ⟨sent, rfl, harranged⟩ := h.arranged
  rcases List.mem_append.mp hr with hr | hr
  · exact hrs r (mem_of_mem_transcript hr)
  · exact hfiles r (harranged.overlaps.subset.2.2 r hr)

theorem Creates.isPost_eq_true {journal : Journal} {operation : Operation} {post : Request}
    (h : e.Creates network journal operation post) : post.isPost = true := by
  cases operation with
  | annotate url commit findings passed scanId publish =>
    obtain ⟨-, _, _, _, _, -, -, -, rfl⟩ := h
    rfl
  | _ => exact h.elim

theorem steps_contact (e : Engine) (network : Network) (journal : Journal)
    (operations : List (Operation × Order)) :
    (∀ step ∈ e.steps network journal operations, ∃ rs files reads posts,
      e.Contact network step rs files reads posts ∧ (∀ r ∈ reads, r.isPost = false) ∧
        ∀ r ∈ posts, r.isPost = true) ∧
    ∀ (c : Client) (path : String) (query : Option (Dict Value)) (extra : Dict Value)
      (journal : Journal),
      let r := c.getRequest path query extra
      let sent := attempts network journal.requests r
      (∃ later, (c.get path query extra).run network journal =
        ((finalReply network journal.requests r).document, later) ∧
          later.requests = journal.requests ++ sent) ∧
      (sent = [r] ∨ sent = [r, r]) ∧
      (sent = [r, r] ↔ ∃ kind message,
        network journal.requests r = .breakdown kind message ∧ kind.isTransient = true) := by
  constructor
  · intro step hstep
    obtain ⟨before, operation, order, rfl⟩ := exists_step_of_mem_steps hstep
    obtain ⟨rs, files, reads, posts, h⟩ := e.exists_contact_step network before operation order
    refine ⟨rs, files, reads, posts, h, fun r => h.isPost_eq_false, fun r hr => ?_⟩
    exact ((h.creates r).mp hr).isPost_eq_true
  · intro c path query extra journal r sent
    exact ⟨Client.run_read r network journal, attempts_cases r, attempts_eq_pair_iff⟩

def flakyNetwork : Network := fun earlier r =>
  if r.isPost then .response ⟨201, .document (.object []), none⟩
  else if earlier.isEmpty then .breakdown .connection "reset"
  else .response ⟨200, .document (.list []), none⟩

def plainEngine : Engine :=
  create ⟨"t", "https://api.github.com", .int 20⟩ {} "https://app"

def publishing : Operation :=
  .annotate (some "https://github.com/acme/shop") (some "c0ffee") [] true "1" true

theorem steps_contact_retried :
    ∃ step ∈ plainEngine.steps flakyNetwork ⟨[], []⟩ [(publishing, .inTurn)],
      step.after.requests.map Request.line = [
        "GET https://api.github.com/repos/acme/shop/commits/c0ffee/pulls",
        "GET https://api.github.com/repos/acme/shop/commits/c0ffee/pulls",
        "POST https://api.github.com/repos/acme/shop/check-runs"] ∧
      (∃ payload, step.outcome = .ok (.checkRun payload true)) ∧
      ∃ rs files reads posts, plainEngine.Contact flakyNetwork step rs files reads posts := by
  refine ⟨_, List.mem_singleton.mpr rfl, by decide +kernel, ⟨_, rfl⟩, ?_⟩
  obtain ⟨rs, files, reads, posts, h, -⟩ := (steps_contact plainEngine flakyNetwork ⟨[], []⟩
    [(publishing, .inTurn)]).1 _ (List.mem_singleton.mpr rfl)
  exact ⟨rs, files, reads, posts, h⟩

end Engine

end DiffReach
