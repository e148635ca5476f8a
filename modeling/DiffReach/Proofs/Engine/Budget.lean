import DiffReach.Proofs.Engine.Contact
import DiffReach.Proofs.Engine.Exhaustion
import DiffReach.Proofs.Snapshot.Interleaving

namespace DiffReach

open Host

namespace Host

variable (network : Network)

theorem length_attempts_le (earlier : List Request) (r : Request) :
    (attempts network earlier r).length ≤ 2 := by
  have hcases : attempts network earlier r = [r] ∨ attempts network earlier r = [r, r] :=
    attempts_cases r
  rcases hcases with h | h <;> simp [h]

theorem length_transcript_le (earlier rs : List Request) :
    (transcript network earlier rs).length ≤ 2 * rs.length := by
  induction rs generalizing earlier with
  | nil => simp [transcript]
  | cons r rs ih =>
    have hfirst := length_attempts_le network earlier r
    have hrest := ih (earlier ++ attempts network earlier r)
    rw [transcript, List.length_append, List.length_cons]
    omega

end Host

namespace Session

variable {α β : Type} {network : Network} {journal : Journal} {n m : Nat}

def Spends (network : Network) (journal : Journal) (n : Nat) (session : Session α) : Prop :=
  ∃ sent, (session.run network journal).2.requests = journal.requests ++ sent ∧ sent.length ≤ n

theorem SendsIn.spends {order : Order} {kind : List Request → List Request → Prop}
    {session : Session α} (h : session.SendsIn order network journal kind)
    (hkind : ∀ rs files, kind rs files → rs.length + files.length ≤ n) :
    session.Spends network journal (2 * n) := by
  obtain ⟨rs, files, sent, hrs, harranged, hsent⟩ := h
  rw [List.append_assoc] at hsent
  refine ⟨_, hsent, ?_⟩
  have hfirst := length_transcript_le network journal.requests rs
  have hsecond := harranged.overlaps.length_le
  have hfew := hkind rs files hrs
  rw [List.length_append]
  omega

end Session

namespace Scope

theorem length_pageReadings (client : Client) (perPage : Value) (repository : String) (pull : Int)
    (left : Nat) (page : Int) :
    (pageReadings client perPage repository pull left page).length = left := by
  induction left generalizing page with
  | zero => rfl
  | succ left ih => rw [pageReadings, List.length_cons, ih]

theorem Asks.length_le {client : Client} {limits : Limits} {url commit : Option String}
    {rs : List Request} (h : Asks client limits url commit rs) :
    rs.length ≤ 2 + limits.count .maxPullFilePages := by
  rcases h with rfl | ⟨repository, pull, -, hrs⟩
  · exact Nat.zero_le _
  · have hlength := hrs.length_le
    rw [readings, List.length_cons, List.length_cons, length_pageReadings] at hlength
    change rs.length ≤ limits.count .maxPullFilePages + 1 + 1 at hlength
    omega

end Scope

namespace Snapshot

variable {network : Network} {client : Client} {limits : Limits} {suffixes : List String}
  {repository commit : String} {journal later : Journal}

theorem length_le_of_run_tree (hl : limits.Counting) {paths : List Listed}
    (h : (tree client limits suffixes repository commit).run network journal = (.ok paths, later)) :
    paths.length ≤ limits.count .maxTreeCandidates := by
  obtain ⟨fields, middle, -, hrest⟩ := Session.exists_run_of_run_bind h
  cases fields with
  | none =>
    cases hrest
    exact Nat.zero_le _
  | some fields =>
    obtain ⟨found, _, -, hrest⟩ := Session.exists_run_of_run_bind hrest
    obtain ⟨isOver, _, -, hrest⟩ := Session.exists_run_of_run_bind hrest
    have hcut : limits.maxTreeCandidates.cut found = .ok paths := by
      cases isOver with
      | false => exact (Session.eq_of_run_settle hrest).1
      | true =>
        obtain ⟨_, _, -, hrest⟩ := Session.exists_run_of_run_bind hrest
        exact (Session.eq_of_run_settle hrest).1
    rw [show limits.maxTreeCandidates = .int _ from hl.get_eq .maxTreeCandidates (by decide),
      Value.cut_natCast] at hcut
    obtain rfl := Except.ok.inj hcut
    exact List.length_take_le _ _

theorem Asks.length_le (hl : limits.Counting) {rs files : List Request}
    (h : Asks client limits suffixes repository commit network journal rs files) :
    rs.length + files.length ≤
      1 + min (limits.count .maxTreeCandidates) (limits.count .maxFetchedFiles) := by
  obtain ⟨rfl, chosen, rfl, hchosen⟩ := h
  have hfiles := List.length_filterMap_le (fileRequest? client repository commit) chosen
  rw [List.length_singleton]
  rcases hchosen with rfl | ⟨paths, later, htree, hcut⟩
  · rw [List.length_nil] at hfiles
    omega
  · have hlisted := length_le_of_run_tree hl htree
    rw [hl.cut_maxFetchedFiles] at hcut
    obtain rfl := Except.ok.inj hcut
    rw [List.length_take] at hfiles
    omega

end Snapshot

namespace Limits

def budget (l : Limits) : Operation → Nat
  | .scope _ _ => 2 * (2 + l.count .maxPullFilePages)
  | .snapshot _ _ | .verify _ _ _ =>
      2 * (1 + min (l.count .maxTreeCandidates) (l.count .maxFetchedFiles))
  | .annotate _ _ _ _ _ _ => 2 * (2 + l.count .maxPullFilePages) + 1

end Limits

namespace Engine

variable {e : Engine} {network : Network}

theorem length_le_of_asks (hl : e.limits.Counting) {journal : Journal} {operation : Operation}
    {rs files posts : List Request} (hasks : e.Asks network journal operation rs files)
    (honce : posts.length ≤ 1)
    (hcreates : ∀ post ∈ posts, e.Creates network journal operation post) :
    2 * (rs.length + files.length) + posts.length ≤ e.limits.budget operation := by
  cases operation with
  | annotate url commit findings passed scanId publish =>
    obtain ⟨rfl, hasks⟩ := hasks
    have hrs := hasks.length_le
    rw [Limits.budget, List.length_nil]
    omega
  | scope url commit =>
    obtain ⟨rfl, hasks⟩ := hasks
    have hrs := hasks.length_le
    have hposts : posts = [] := List.eq_nil_iff_forall_not_mem.mpr hcreates
    rw [Limits.budget, hposts, List.length_nil]
    omega
  | snapshot url commit | verify url commit findings =>
    have hposts : posts = [] := List.eq_nil_iff_forall_not_mem.mpr hcreates
    rw [Limits.budget, hposts, List.length_nil]
    rcases hasks with ⟨rfl, rfl⟩ | ⟨repository, -, hasks⟩
    · rw [List.length_nil]
      omega
    · have hrs := hasks.length_le hl
      omega

theorem spends_perform (hl : e.limits.Counting) (network : Network) (journal : Journal)
    (operation : Operation) (order : Order) :
    (e.perform operation order).Spends network journal (e.limits.budget operation) := by
  obtain ⟨rs, files, reads, posts, hcontact⟩ :=
    e.exists_contact_step network journal operation order
  have hsent := hcontact.sent
  rw [List.append_assoc] at hsent
  refine ⟨_, hsent, ?_⟩
  obtain ⟨sent, rfl, harranged⟩ := hcontact.arranged
  have hfew := length_le_of_asks hl hcontact.asks hcontact.once fun post =>
    (hcontact.creates post).mp
  have hfirst := length_transcript_le network journal.requests rs
  have hsecond := harranged.overlaps.length_le
  rw [List.length_append, List.length_append]
  change (transcript network journal.requests rs).length + sent.length + posts.length ≤ _
  change 2 * (rs.length + files.length) + posts.length ≤ e.limits.budget operation at hfew
  omega

section Attained

variable {client : Client} {limits : Limits} {url commit : Option String}

theorem exhausts_scope (hl : limits.Counting) (hplaced : ¬ Scope.Unplaced client url commit)
    (app : String) : ∃ scope, ((create client limits app).scope url commit).Exhausts
      (Scope.fullPage (limits.count .pullFilesPerPage)) (2 + limits.count .maxPullFilePages)
        (some scope) := by
  obtain ⟨repository, hresolve⟩ := Scope.exists_resolve_eq hplaced limits
  obtain ⟨scope, hscope⟩ := Scope.exhausts_lookUp hl client repository (commit.getD "")
  refine ⟨scope, ?_⟩
  change (Scope.resolve client limits url commit).Exhausts _ _ _
  rw [hresolve]
  exact hscope.recover _

theorem exhausts_snapshot (hl : limits.Counting) (hplaced : ¬ Scope.Unplaced client url commit)
    (app : String) : ∃ found, ((create client limits app).snapshot url commit).Exhausts
      (Snapshot.fullTree (limits.count .maxTreeCandidates))
      (1 + min (limits.count .maxTreeCandidates) (limits.count .maxFetchedFiles)) found := by
  obtain ⟨repository, hpath⟩ : ∃ repository, Repository.path? (url.getD "") = some repository :=
    Option.ne_none_iff_exists'.mp fun hnone => hplaced (by simp [Scope.Unplaced, hnone])
  obtain ⟨found, hfound⟩ : ∃ found, (create client limits app).scan [] = .ok found := ⟨_, rfl⟩
  refine ⟨found, ?_⟩
  rw [snapshot, hpath]
  refine (Snapshot.exhausts_sources hl).bind (m := 0) ?_
  beta_reduce
  rw [hfound]
  refine Session.Exhausts.settle_bind ?_
  exact Session.Exhausts.report_bind (Session.exhausts_pure found)

theorem length_requests_annotate (hl : limits.Counting)
    (hplaced : ¬ Scope.Unplaced client url commit) (app : String) (passed : Bool)
    (scanId : String) :
    (((create client limits app).perform (.annotate url commit [] passed scanId true)).run
      (dropping (Scope.fullPage (limits.count .pullFilesPerPage))) ⟨[], []⟩).2.requests.length =
        2 * (2 + limits.count .maxPullFilePages) + 1 := by
  let e := create client limits app
  let network := dropping (Scope.fullPage (limits.count .pullFilesPerPage))
  obtain ⟨scope, hscope⟩ := exhausts_scope hl hplaced app
  obtain ⟨later, hrun, hsent⟩ := hscope ⟨[], []⟩ rfl
  obtain ⟨payload, hbuild⟩ : ∃ payload,
      e.emitter.build passed (classify [] (some scope)) (some scope) scanId = .ok payload := by
    have hcut : e.emitter.limits.maxAnnotations.cut
        (CheckRun.candidates (classify [] (some scope))) = .ok [] := by
      change limits.maxAnnotations.cut [] = _
      rw [show limits.maxAnnotations = .int _ from hl.get_eq .maxAnnotations (by decide),
        Value.cut_natCast, List.take_nil]
    rw [CheckRun.Emitter.build, hcut]
    exact ⟨_, rfl⟩
  simp only [Scope.Unplaced, not_or] at hplaced
  obtain ⟨htoken, hurl, hcommit, hlocal, hpath⟩ := hplaced
  obtain ⟨repository, hpath⟩ := Option.ne_none_iff_exists'.mp hpath
  obtain ⟨outcome, last, hpublish, hposted, -⟩ := CheckRun.Emitter.run_publish (e := e.emitter)
    ⟨htoken, hpath, hcommit, hlocal⟩ payload network later
  have hperform : (e.perform (.annotate url commit [] passed scanId true)).run network ⟨[], []⟩ =
      (outcome.map (.checkRun payload), last) :=
    perform_annotate hrun hbuild hpublish
  rw [hperform, hposted, List.length_append, hsent]
  simp

theorem exists_length_eq_budget (hl : limits.Counting)
    (hplaced : ¬ Scope.Unplaced client url commit) (app : String) (findings : List Finding)
    (passed : Bool) (scanId : String) :
    ∀ operation ∈ [Operation.scope url commit, .snapshot url commit, .verify url commit findings,
      .annotate url commit [] passed scanId true],
    ∃ network, (((create client limits app).perform operation).run network
      ⟨[], []⟩).2.requests.length = limits.budget operation := by
  obtain ⟨scope, hscope⟩ := exhausts_scope hl hplaced app
  obtain ⟨found, hfound⟩ := exhausts_snapshot hl hplaced app
  simp only [List.forall_mem_cons, List.not_mem_nil, false_implies, implies_true, and_true]
  refine ⟨?scope, ?snapshot, ?verify, ?annotate⟩
  case scope => exact ⟨_, hscope.length_requests (Session.silent_pure _)⟩
  case snapshot => exact ⟨_, hfound.length_requests (Session.silent_pure _)⟩
  case verify =>
    refine ⟨dropping (Snapshot.fullTree (limits.count .maxTreeCandidates)), ?_⟩
    rw [perform, Session.run_map, verify]
    exact hfound.length_requests
      ((Evidence.silent_verify _ _ _).bind fun _ => Session.silent_pure _)
  case annotate => exact ⟨_, length_requests_annotate hl hplaced app passed scanId⟩

end Attained

theorem requests_within_budget (limits : Limits) (hl : limits.Counting) :
    (∀ e : Engine, e.limits = limits → ∀ network journal operation order,
      (e.perform operation order).Spends network journal (limits.budget operation)) ∧
    (∀ schedule client suffixes repository commit network journal,
      (Snapshot.sourcesInterleaved schedule client limits suffixes repository commit).Spends
        network journal
        (2 * (1 + min (limits.count .maxTreeCandidates) (limits.count .maxFetchedFiles)))) ∧
    ∀ client url commit, ¬ Scope.Unplaced client url commit → ∀ app findings passed scanId,
      ∀ operation ∈ [Operation.scope url commit, .snapshot url commit,
        .verify url commit findings, .annotate url commit [] passed scanId true],
      ∃ network, (((create client limits app).perform operation).run network
        ⟨[], []⟩).2.requests.length = limits.budget operation := by
  refine ⟨?_, ?_, ?_⟩
  · rintro e rfl network journal operation order
    exact spends_perform hl network journal operation order
  · intro schedule client suffixes repository commit network journal
    exact (Snapshot.sendsIn_sources client limits suffixes repository commit (.mixed schedule)
      journal).spends fun rs files hasks => hasks.length_le hl
  · intro client url commit hplaced app findings passed scanId
    exact exists_length_eq_budget hl hplaced app findings passed scanId

def tightLimits : Limits where
  maxPullFilePages := .int 2
  pullFilesPerPage := .int 1
  maxTreeCandidates := .int 3
  maxFetchedFiles := .int 2

def tightEngine : Engine :=
  create ⟨"t", "https://api.github.com", .int 20⟩ tightLimits "https://app"

theorem requests_within_budget_tight :
    let verifying : Operation := .verify (some "https://github.com/acme/shop") (some "c0ffee") []
    let publishing : Operation :=
      .annotate (some "https://github.com/acme/shop") (some "c0ffee") [] true "1" true
    tightLimits.Counting ∧
    (∀ network journal order, (tightEngine.perform verifying order).Spends network journal 6) ∧
    (∀ network journal order, (tightEngine.perform publishing order).Spends network journal 9) ∧
    (∃ network, ((tightEngine.perform verifying).run network ⟨[], []⟩).2.requests.length = 6) ∧
    ∃ network, ((tightEngine.perform publishing).run network ⟨[], []⟩).2.requests.length = 9 := by
  intro verifying publishing
  have hl : tightLimits.Counting := by
    intro key hk
    cases key with
    | requestTimeout => exact absurd rfl hk
    | _ => exact ⟨_, by decide, rfl⟩
  have hplaced : ¬ Scope.Unplaced ⟨"t", "https://api.github.com", .int 20⟩
      (some "https://github.com/acme/shop") (some "c0ffee") := by
    simp only [Scope.Unplaced]
    decide +kernel
  obtain ⟨hmost, -, hattained⟩ := requests_within_budget tightLimits hl
  have hattained := hattained _ _ _ hplaced "https://app" [] true "1"
  exact ⟨hl, fun network journal order => hmost tightEngine rfl network journal verifying order,
    fun network journal order => hmost tightEngine rfl network journal publishing order,
    hattained verifying (by simp [verifying]), hattained publishing (by simp [publishing])⟩

end Engine

end DiffReach
