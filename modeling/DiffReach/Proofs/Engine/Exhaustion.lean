import DiffReach.Engine
import DiffReach.Proofs.Limits
import DiffReach.Proofs.Snapshot.Downloads

namespace DiffReach

open Host

namespace Host

def dropping (v : Value) : Network := fun earlier _ =>
  if earlier.length % 2 = 0 then .breakdown .connection "reset"
  else .response ⟨200, .document v, none⟩

variable {v : Value} {earlier : List Request}

theorem attempts_dropping (h : earlier.length % 2 = 0) (r : Request) :
    attempts (dropping v) earlier r = [r, r] := by
  rw [attempts, dropping, if_pos h]
  rfl

theorem finalReply_dropping (h : earlier.length % 2 = 0) (r : Request) :
    finalReply (dropping v) earlier r = .response ⟨200, .document v, none⟩ := by
  have hfirst : dropping v earlier r = .breakdown .connection "reset" := if_pos h
  have hodd : ¬ (earlier ++ [r]).length % 2 = 0 := by
    rw [List.length_append, List.length_singleton]
    omega
  rw [finalReply, hfirst]
  exact if_neg hodd

end Host

namespace Session

variable {α β : Type} {v : Value} {n m : Nat} {a : α} {b : β}

/-- On a network that drops every other request a session makes so many readings and ends with a
result. -/
def Exhausts (v : Value) (n : Nat) (a : α) (session : Session α) : Prop :=
  ∀ journal, journal.requests.length % 2 = 0 → ∃ later,
    session.run (dropping v) journal = (.ok a, later) ∧
      later.requests.length = journal.requests.length + 2 * n

theorem exhausts_pure (a : α) : (pure a : Session α).Exhausts v 0 a := by
  intro journal _
  exact ⟨journal, rfl, rfl⟩

theorem exhausts_read (v : Value) (r : Request) : (Client.read r).Exhausts v 1 v := by
  intro journal heven
  obtain ⟨later, hrun, hsent⟩ := Client.run_read r (dropping v) journal
  rw [finalReply_dropping heven] at hrun
  refine ⟨later, hrun, ?_⟩
  rw [hsent, attempts_dropping heven, List.length_append]
  rfl

theorem Exhausts.bind {session : Session α} {next : α → Session β}
    (h : session.Exhausts v n a) (hnext : (next a).Exhausts v m b) :
    (session >>= next).Exhausts v (n + m) b := by
  intro journal heven
  obtain ⟨middle, hrun, hsent⟩ := h journal heven
  obtain ⟨later, hmore, hlast⟩ := hnext middle (by omega)
  refine ⟨later, ?_, by omega⟩
  rw [run_bind_of_ok hrun, hmore]

theorem Exhausts.map {session : Session α} (h : session.Exhausts v n a) (f : α → β) :
    (session >>= fun a => (pure (f a) : Session β)).Exhausts v n (f a) := by
  intro journal heven
  obtain ⟨later, hrun, hsent⟩ := h journal heven
  refine ⟨later, ?_, hsent⟩
  rw [run_bind_of_ok hrun, run_pure]

theorem Exhausts.settle_bind {next : α → Session β} (h : (next a).Exhausts v n b) :
    (settle (.ok a) >>= next).Exhausts v n b :=
  h

theorem Exhausts.report_bind {event : Event} {next : Unit → Session β}
    (h : (next ()).Exhausts v n b) : (report event >>= next).Exhausts v n b := by
  intro journal heven
  obtain ⟨later, hrun, hsent⟩ := h { journal with events := journal.events ++ [event] } heven
  refine ⟨later, ?_, hsent⟩
  rw [run_bind_of_ok (run_report event (dropping v) journal), hrun]

theorem Exhausts.recover {session : Session α} (h : session.Exhausts v n a)
    (handler : Failure → Session α) : (session.recover handler).Exhausts v n a := by
  intro journal heven
  obtain ⟨later, hrun, hsent⟩ := h journal heven
  refine ⟨later, ?_, hsent⟩
  rw [run_recover, hrun]

theorem Exhausts.hold {session : Session α} (h : session.Exhausts v n a) :
    session.hold.Exhausts v n (.ok a) := by
  intro journal heven
  obtain ⟨later, hrun, hsent⟩ := h journal heven
  refine ⟨later, ?_, hsent⟩
  rw [run_hold, hrun]

theorem Exhausts.length_requests {session : Session α} {next : α → Session β}
    (h : session.Exhausts v n a) (hnext : (next a).Silent) :
    ((session >>= next).run (dropping v) ⟨[], []⟩).2.requests.length = 2 * n := by
  obtain ⟨later, hrun, hsent⟩ := h ⟨[], []⟩ rfl
  rw [run_bind_of_ok hrun, hnext, hsent]
  simp

end Session

namespace Scope

def numbered : Value := .object [("number", .int 1)]

def fullPage (perPage : Nat) : Value := .list (List.replicate perPage numbered)

theorem addFiles_numbered {entries : List Value} (h : ∀ entry ∈ entries, entry = numbered)
    (scope : Scope) : scope.addFiles entries = .ok scope := by
  induction entries with
  | nil => rfl
  | cons entry entries ih =>
    obtain ⟨rfl, hrest⟩ := List.forall_mem_cons.mp h
    exact ih hrest

variable {perPage : Nat} {limits : Limits}

theorem exhausts_listPages (client : Client) (repository : String) (hp : 0 < perPage)
    (pull pages : Int) (left : Nat) (page : Int) :
    ∃ entries, (∀ entry ∈ entries, entry = numbered) ∧
      (listPages client (.int perPage) repository pull pages left page).Exhausts
        (fullPage perPage) left entries := by
  induction left generalizing page with
  | zero =>
    refine ⟨[], List.forall_mem_nil _, ?_⟩
    exact Session.Exhausts.report_bind (Session.exhausts_pure [])
  | succ left ih =>
    obtain ⟨rest, hrest, hmore⟩ := ih (page + 1)
    let batch := List.replicate perPage numbered
    have hread : (client.pullFiles repository (toString pull) (.int page)
        (.int perPage)).Exhausts (fullPage perPage) 1 batch :=
      (Session.exhausts_read _ _).map Client.items
    have hfull : ¬ batch.isEmpty = true := by
      rw [List.isEmpty_iff, List.replicate_eq_nil_iff]
      omega
    have hallows : (Value.int perPage).allows batch.length = .ok false := by
      change Except.ok (decide ((batch.length : Int) < perPage)) = _
      simp [batch]
    refine ⟨batch ++ rest, fun entry hentry => ?_, ?_⟩
    · rcases List.mem_append.mp hentry with h | h
      · exact List.eq_of_mem_replicate h
      · exact hrest entry h
    · rw [listPages, Nat.add_comm left 1]
      refine hread.bind ?_
      rw [if_neg hfull, hallows]
      refine Session.Exhausts.settle_bind ?_
      exact hmore.map (batch ++ ·)

theorem exhausts_lookUp (hl : limits.Counting) (client : Client) (repository commit : String) :
    ∃ scope, (lookUp client limits repository commit).Exhausts
      (fullPage (limits.count .pullFilesPerPage)) (2 + limits.count .maxPullFilePages)
        (some scope) := by
  let perPage := limits.count .pullFilesPerPage
  have hpages : limits.maxPullFilePages = .int (limits.count .maxPullFilePages) :=
    hl.get_eq .maxPullFilePages (by decide)
  have hperPage : limits.pullFilesPerPage = .int perPage :=
    hl.get_eq .pullFilesPerPage (by decide)
  have hpos : 0 < perPage := hl.count_pos .pullFilesPerPage (by decide)
  have hpulls : (client.commitPulls repository commit).Exhausts (fullPage perPage) 1
      (List.replicate perPage numbered) :=
    (Session.exhausts_read _ _).map Client.items
  have hfirst : firstPull (List.replicate perPage numbered) = .ok 1 := by
    obtain ⟨more, hmore⟩ : ∃ more, perPage = more + 1 := ⟨perPage - 1, by omega⟩
    rw [hmore, List.replicate_succ]
    rfl
  have hpull : (client.pull repository (toString (1 : Int))).Exhausts (fullPage perPage) 1 [] :=
    (Session.exhausts_read _ _).map Client.fields
  obtain ⟨start, hstart⟩ : ∃ start, ofDetail repository commit 1 [] = .ok start := ⟨_, rfl⟩
  obtain ⟨entries, hentries, hlist⟩ := exhausts_listPages client repository hpos 1
    (limits.count .maxPullFilePages) (limits.count .maxPullFilePages) 1
  have hfiles : (listFiles client limits repository 1).Exhausts (fullPage perPage)
      (limits.count .maxPullFilePages) entries := by
    rw [listFiles, hpages, hperPage]
    exact hlist
  refine ⟨start, ?_⟩
  rw [lookUp, Nat.add_assoc 1 1]
  refine hpulls.bind ?_
  rw [hfirst]
  refine Session.Exhausts.settle_bind ?_
  rw [if_neg (by decide)]
  refine hpull.bind ?_
  rw [hstart]
  refine Session.Exhausts.settle_bind ?_
  refine hfiles.bind (m := 0) ?_
  rw [addFiles_numbered hentries start]
  exact (Session.exhausts_pure (some start)).settle_bind

end Scope

namespace Snapshot

def blob : Value := .object [("type", .str "blob"), ("path", .str "a.py")]

def fullTree (n : Nat) : Value := .object [("tree", .list (List.replicate n blob))]

theorem candidates_blobs (n : Nat) :
    candidates pythonSuffixes (List.replicate n blob) = .ok (List.replicate n (.text "a.py")) := by
  have hblob : candidate? pythonSuffixes blob = .ok (some (.text "a.py")) := by decide +kernel
  induction n with
  | zero => rfl
  | succ n ih =>
    rw [List.replicate_succ, candidates, hblob, ih]
    rfl

variable {client : Client} {repository commit : String} {limits : Limits}

theorem exhausts_treeFields (n : Nat) : (treeFields client repository commit).Exhausts (fullTree n)
    1 (some [("tree", .list (List.replicate n blob))]) :=
  (((Session.exhausts_read _ _).map Client.fields).map some).recover _

theorem exhausts_tree (hl : limits.Counting) :
    (tree client limits pythonSuffixes repository commit).Exhausts
      (fullTree (limits.count .maxTreeCandidates)) 1
        (List.replicate (limits.count .maxTreeCandidates) (.text "a.py")) := by
  let n := limits.count .maxTreeCandidates
  let paths := List.replicate n (Listed.text "a.py")
  have hcap : limits.maxTreeCandidates = .int n := hl.get_eq .maxTreeCandidates (by decide)
  have hfound : candidates pythonSuffixes (Client.items ((Dict.fetch
      [("tree", Value.list (List.replicate n blob))] "tree").getD .null)) = .ok paths :=
    candidates_blobs n
  have hover : limits.maxTreeCandidates.isExceededBy paths.length = .ok false := by
    rw [hcap, Value.isExceededBy_natCast]
    simp [paths]
  have hcut : limits.maxTreeCandidates.cut paths = .ok paths := by
    rw [hcap, Value.cut_natCast, List.take_of_length_le (by simp [paths])]
  rw [tree]
  refine (exhausts_treeFields n).bind (m := 0) ?_
  dsimp only
  rw [hfound]
  refine Session.Exhausts.settle_bind ?_
  rw [hover]
  refine Session.Exhausts.settle_bind ?_
  rw [hcut]
  exact Session.exhausts_pure paths

theorem exhausts_file (n : Nat) (path : String) :
    (file client repository path commit).Exhausts (fullTree n) 1 none := by
  rw [file]
  refine Session.Exhausts.bind (m := 0)
    ((((Session.exhausts_read _ _).map Client.fields).map some).recover _) ?_
  exact Session.exhausts_pure none

theorem exhausts_fetchEach (n : Nat) (paths : List String) :
    (fetchEach client repository commit (paths.map .text)).Exhausts (fullTree n) paths.length
      (paths.map fun path => (path, .ok none)) := by
  induction paths with
  | nil => exact Session.exhausts_pure _
  | cons path rest ih =>
    rw [List.map_cons, List.map_cons, List.length_cons, Nat.add_comm, fetchEach]
    refine (exhausts_file n path).hold.bind ?_
    exact ih.map ((path, .ok none) :: ·)

theorem exhausts_sources (hl : limits.Counting) :
    (sources client limits pythonSuffixes repository commit).Exhausts
      (fullTree (limits.count .maxTreeCandidates))
      (1 + min (limits.count .maxTreeCandidates) (limits.count .maxFetchedFiles)) [] := by
  let n := min (limits.count .maxTreeCandidates) (limits.count .maxFetchedFiles)
  let chosen := List.replicate n "a.py"
  have hlength : chosen.length = n := List.length_replicate
  have hcut : limits.maxFetchedFiles.cut
      (List.replicate (limits.count .maxTreeCandidates) (Listed.text "a.py")) =
        .ok (chosen.map .text) := by
    rw [hl.cut_maxFetchedFiles, List.take_replicate, Nat.min_comm, List.map_replicate]
  have hchosen : ¬ (chosen.map Listed.text).isEmpty = true := by
    have hcandidates := hl.count_pos .maxTreeCandidates (by decide)
    have hfetched := hl.count_pos .maxFetchedFiles (by decide)
    rw [List.isEmpty_iff, List.map_eq_nil_iff, List.replicate_eq_nil_iff]
    omega
  obtain ⟨spare, hspare⟩ := hl.exists_allows (chosen.map Listed.text).length
  have hkept : (keepTexts (chosen.map fun path => (path, .ok none))).Exhausts
      (fullTree (limits.count .maxTreeCandidates)) 0 [] := by
    intro journal _
    refine ⟨journal, ?_, rfl⟩
    rw [run_keepTexts, keptTexts_of_ok (fun _ => none) fun _ _ => rfl]
    simp
  rw [sources]
  refine (exhausts_tree hl).bind ?_
  rw [hcut]
  refine Session.Exhausts.settle_bind ?_
  rw [if_neg hchosen, hspare]
  refine Session.Exhausts.settle_bind ?_
  change Session.Exhausts _ n _ _
  rw [← hlength]
  refine (exhausts_fetchEach _ chosen).bind (m := 0) (hkept.bind (m := 0) ?_)
  exact Session.Exhausts.report_bind (Session.exhausts_pure [])

end Snapshot

end DiffReach
