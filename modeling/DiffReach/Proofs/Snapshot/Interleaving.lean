import DiffReach.Proofs.Scope.WholeOrNone
import DiffReach.Proofs.Snapshot.Downloads
import DiffReach.Proofs.Snapshot.Readings
import DiffReach.Proofs.Text.Percent

namespace DiffReach

open Host

namespace Host

def asked (sent : List Request) (line : String) : Nat :=
  (sent.map Request.line).count line

/-- A network that answers by the line of a request and by how often that was sent before. -/
def counting (answer : String → Nat → Reply) : Network := fun earlier r =>
  answer r.line (asked earlier r.line)

/-- How often a reading sends a line that was sent so often before. -/
def tries (answer : String → Nat → Reply) (line : String) (count : Nat) : Nat :=
  if (answer line count).isTransient then 2 else 1

def settled (answer : String → Nat → Reply) (line : String) (count : Nat) : Reply :=
  if (answer line count).isTransient then answer line (count + 1) else answer line count

section Counting

variable {answer : String → Nat → Reply} {network : Network} {earlier : List Request}
  {r : Request} {line : String} {count : Nat}

theorem asked_append (sent more : List Request) (line : String) :
    asked (sent ++ more) line = asked sent line + asked more line := by
  simp [asked]

theorem asked_replicate_self (n : Nat) (r : Request) : asked (List.replicate n r) r.line = n := by
  simp [asked]

theorem asked_replicate_of_ne (n : Nat) (h : r.line ≠ line) :
    asked (List.replicate n r) line = 0 := by
  simp [asked, List.count_replicate, h]

theorem asked_append_of_ne {sent : List Request} (n : Nat) (h : r.line ≠ line) :
    asked (sent ++ List.replicate n r) line = asked sent line := by
  rw [asked_append, asked_replicate_of_ne n h, Nat.add_zero]

theorem reading_eq (hfirst : network earlier r = answer line count)
    (hsecond : network (earlier ++ [r]) r = answer line (count + 1)) :
    attempts network earlier r = List.replicate (tries answer line count) r ∧
      finalReply network earlier r = settled answer line count := by
  rw [attempts, finalReply, tries, settled, hfirst, hsecond]
  cases (answer line count).isTransient with
  | false => exact ⟨rfl, rfl⟩
  | true => exact ⟨rfl, rfl⟩

theorem reading_counting (answer : String → Nat → Reply) (earlier : List Request) (r : Request) :
    attempts (counting answer) earlier r =
        List.replicate (tries answer r.line (asked earlier r.line)) r ∧
      finalReply (counting answer) earlier r = settled answer r.line (asked earlier r.line) := by
  refine reading_eq rfl ?_
  have hone : asked [r] r.line = 1 := asked_replicate_self 1 r
  rw [counting, asked_append, hone]

theorem resuming_counting {sent : List Request} {k : Nat}
    (hsent : asked sent r.line = count + k) (j : Nat) :
    resuming (counting answer) sent ((List.range k).map fun i => answer r.line (count + i))
      (List.replicate j r) r = answer r.line (count + j) := by
  rw [resuming]
  by_cases hj : j < k
  · simp [hj]
  · have hmore : count + k + (j - k) = count + j := by omega
    simp [hj, counting, asked_append, hsent, asked_replicate_self, hmore]

theorem reading_resuming (answer : String → Nat → Reply) {sent : List Request} {k : Nat}
    (hsent : asked sent r.line = count + k) :
    let network :=
      resuming (counting answer) sent ((List.range k).map fun i => answer r.line (count + i))
    attempts network [] r = List.replicate (tries answer r.line count) r ∧
      finalReply network [] r = settled answer r.line count := by
  intro network
  exact reading_eq (resuming_counting hsent 0) (resuming_counting hsent 1)

end Counting

end Host

namespace Host.Client

variable (client : Client) (repository commit : String)

def fileLine (path : String) : String :=
  (client.contentsRequest repository (.str commit) path).line

def linePrefix : String :=
  "GET " ++ client.apiUrl ++ "/repos/" ++ repository ++ "/"

theorem toList_fileLine (path : String) :
    (client.fileLine repository commit path).toList =
      (client.linePrefix repository).toList ++ ("contents/".toList ++
        ((Text.percentEncode path).toList ++ ("?ref=".toList ++ commit.toList))) := by
  simp [fileLine, contentsRequest, getRequest, Request.line, queryText, url, linePrefix, Value.text,
    Text.dropLeading, toString]

theorem exists_toList_line_tree : ∃ rest, (client.treeRequest repository commit).line.toList =
    (client.linePrefix repository).toList ++ ("git/trees/".toList ++ rest) := by
  simp [treeRequest, getRequest, Request.line, queryText, url, linePrefix, Text.dropLeading,
    toString]

theorem fileLine_injective : Function.Injective (client.fileLine repository commit) := by
  intro path other h
  have hchars := congrArg String.toList h
  rw [toList_fileLine, toList_fileLine] at hchars
  have hplaces := List.append_cancel_right
    (List.append_cancel_left (List.append_cancel_left hchars))
  exact Text.percentEncode_injective (String.toList_injective hplaces)

theorem line_tree_ne_fileLine (path : String) :
    (client.treeRequest repository commit).line ≠ client.fileLine repository commit path := by
  intro h
  obtain ⟨rest, htree⟩ := exists_toList_line_tree client repository commit
  have hchars := congrArg String.toList h
  rw [htree, toList_fileLine] at hchars
  have hrest := List.append_cancel_left hchars
  simp at hrest

end Host.Client

namespace Snapshot

def fileReply (client : Client) (repository commit : String) (answer : String → Nat → Reply)
    (earlier : List Request) (path : String) : Reply :=
  settled answer (client.fileLine repository commit path)
    (asked earlier (client.fileLine repository commit path))

section Threads

variable {client : Client} {repository commit : String} {answer : String → Nat → Reply}
  {start sent : List Request} {paths : List String}
  {threads : List (Session.Thread (Option String))}

structure Fetching (client : Client) (repository commit : String) (answer : String → Nat → Reply)
    (start sent : List Request) (path : String) (t : Session.Thread (Option String)) (k : Nat) :
    Prop where
  session : t.session = file client repository path commit
  replies : t.replies = (List.range k).map fun j =>
    answer (client.fileLine repository commit path)
      (asked start (client.fileLine repository commit path) + j)
  count : asked sent (client.fileLine repository commit path) =
    asked start (client.fileLine repository commit path) + k

structure Underway (client : Client) (repository commit : String) (answer : String → Nat → Reply)
    (start sent : List Request) (paths : List String)
    (threads : List (Session.Thread (Option String))) : Prop where
  length : threads.length = paths.length
  fetching : ∀ (i : Nat) (path : String) (t : Session.Thread (Option String)),
    paths[i]? = some path → threads[i]? = some t →
      ∃ k, Fetching client repository commit answer start sent path t k

theorem Fetching.resume {path : String} {t : Session.Thread (Option String)} {k : Nat}
    (h : Fetching client repository commit answer start sent path t k) :
    let line := client.fileLine repository commit path
    (t.resume (counting answer) sent).1 =
        replyText (fileReply client repository commit answer start path) ∧
      t.outstanding (counting answer) sent =
        List.replicate (tries answer line (asked start line) - k)
          (client.contentsRequest repository (.str commit) path) := by
  intro line
  obtain ⟨hattempts, hfinal⟩ := reading_resuming answer h.count
  obtain ⟨later, hrun, hsent⟩ := run_file client repository path commit
    (resuming (counting answer) sent t.replies) ⟨[], []⟩
  have hreplies : t.replies = (List.range k).map fun j =>
      answer (client.contentsRequest repository (.str commit) path).line (asked start line + j) :=
    h.replies
  have hlength : t.replies.length = k := by simp [hreplies]
  rw [hreplies, hfinal] at hrun
  rw [hreplies, hattempts, List.nil_append] at hsent
  rw [Session.Thread.outstanding, hlength, Session.Thread.resume, h.session, hreplies, hrun, hsent,
    List.drop_replicate]
  exact ⟨rfl, rfl⟩

theorem Fetching.of_other {path other : String} {t : Session.Thread (Option String)} {k : Nat}
    (h : Fetching client repository commit answer start sent path t k) (hne : other ≠ path)
    (n : Nat) : Fetching client repository commit answer start
      (sent ++ List.replicate n (client.contentsRequest repository (.str commit) other)) path t
        k := by
  have hline : client.fileLine repository commit other ≠ client.fileLine repository commit path :=
    fun hsame => hne (client.fileLine_injective repository commit hsame)
  refine ⟨h.session, h.replies, ?_⟩
  rw [asked_append_of_ne n hline, h.count]

theorem Fetching.next {path : String} {t : Session.Thread (Option String)} {k : Nat}
    (h : Fetching client repository commit answer start sent path t k) :
    let r := client.contentsRequest repository (.str commit) path
    Fetching client repository commit answer start (sent ++ [r]) path
      ⟨t.session, t.replies ++ [counting answer sent r]⟩ (k + 1) := by
  intro r
  have hreply : counting answer sent r = answer (client.fileLine repository commit path)
      (asked start (client.fileLine repository commit path) + k) := by
    rw [← h.count]
    rfl
  have hone : asked [r] (client.fileLine repository commit path) = 1 := asked_replicate_self 1 r
  refine ⟨h.session, ?_, ?_⟩
  · rw [h.replies, hreply, List.range_succ, List.map_append]
    rfl
  · rw [asked_append, h.count, hone, Nat.add_assoc]

theorem underway_start (client : Client) (repository commit : String)
    (answer : String → Nat → Reply) (start : List Request) (paths : List String) :
    let pool := Session.Pool.start start (paths.map fun path => file client repository path commit)
    Underway client repository commit answer start pool.sent paths pool.threads where
  length := by simp [Session.Pool.start]
  fetching i path t hpath ht := by
    rw [Session.Pool.start, List.map_map, List.getElem?_map, hpath] at ht
    obtain rfl := Option.some.inj ht
    exact ⟨0, rfl, rfl, rfl⟩

theorem Underway.step {pool : Session.Pool (Option String)}
    (h : Underway client repository commit answer start pool.sent paths pool.threads)
    (hdistinct : paths.Nodup) (i : Nat) :
    Underway client repository commit answer start (pool.step (counting answer) i).sent paths
      (pool.step (counting answer) i).threads := by
  rw [Session.Pool.step]
  split
  · exact h
  rename_i t ht
  split
  · exact h
  rename_i r hr
  have hi : i < paths.length := by
    rw [← h.length]
    exact (List.getElem?_eq_some_iff.mp ht).1
  have hpath : paths[i]? = some paths[i] := List.getElem?_eq_getElem hi
  obtain ⟨k, hk⟩ := h.fetching i paths[i] t hpath ht
  rw [hk.resume.2, List.head?_replicate] at hr
  split at hr
  · cases hr
  obtain rfl := Option.some.inj hr
  refine ⟨(List.length_set).trans h.length, fun j other u hother hu => ?_⟩
  rw [List.getElem?_set] at hu
  split at hu
  · rename_i hij
    subst hij
    rw [if_pos (List.getElem?_eq_some_iff.mp ht).1] at hu
    obtain rfl := Option.some.inj hu
    obtain rfl := Option.some.inj (hpath.symm.trans hother)
    exact ⟨k + 1, hk.next⟩
  · rename_i hij
    obtain ⟨k', hk'⟩ := h.fetching j other u hother hu
    refine ⟨k', hk'.of_other (fun hsame => hij ?_) 1⟩
    exact (List.getElem?_inj hi hdistinct).mp (by rw [hpath, hother, hsame])

theorem Underway.run {pool : Session.Pool (Option String)}
    (h : Underway client repository commit answer start pool.sent paths pool.threads)
    (hdistinct : paths.Nodup) (schedule : List Nat) :
    Underway client repository commit answer start
      (schedule.foldl (Session.Pool.step (counting answer)) pool).sent paths
      (schedule.foldl (Session.Pool.step (counting answer)) pool).threads := by
  induction schedule generalizing pool with
  | nil => exact h
  | cons i schedule ih => exact ih (h.step hdistinct i)

theorem Underway.finish
    (h : Underway client repository commit answer start sent paths threads)
    (hdistinct : paths.Nodup) : (Session.finish (counting answer) sent threads).1 =
      paths.map fun path =>
        replyText (fileReply client repository commit answer start path) := by
  induction paths generalizing sent threads with
  | nil =>
    obtain rfl := List.length_eq_zero_iff.mp h.length
    rfl
  | cons path paths ih =>
    obtain ⟨hpath, hrest⟩ := List.nodup_cons.mp hdistinct
    cases threads with
    | nil => cases h.length
    | cons t threads =>
      obtain ⟨k, hk⟩ := h.fetching 0 path t rfl rfl
      obtain ⟨houtcome, hout⟩ := hk.resume
      have htail : Underway client repository commit answer start
          (sent ++ t.outstanding (counting answer) sent) paths threads := by
        refine ⟨Nat.succ.inj h.length, fun i other u hother hu => ?_⟩
        obtain ⟨k', hk'⟩ := h.fetching (i + 1) other u hother hu
        refine ⟨k', ?_⟩
        rw [hout]
        refine hk'.of_other (fun hsame => hpath ?_) _
        rw [hsame]
        exact List.mem_of_getElem? hother
      rw [Session.finish, List.map_cons, ← houtcome, ← ih htail hrest]

end Threads

section Fetch

variable {client : Client} {repository commit : String} {answer : String → Nat → Reply}
  {earlier : List Request} {paths : List String}

def FetchesOwn (client : Client) (repository commit : String) (answer : String → Nat → Reply)
    (fetch : Fetch) : Prop :=
  ∀ (paths : List String) (journal : Journal), paths.Nodup →
    ∃ later, (fetch repository commit (paths.map .text)).run (counting answer) journal =
      (.ok (paths.map fun path =>
        (path, replyText (fileReply client repository commit answer journal.requests path))), later)

theorem fileReply_append_of_ne {r : Request} {path : String}
    (h : r.line ≠ client.fileLine repository commit path) (n : Nat) :
    fileReply client repository commit answer (earlier ++ List.replicate n r) path =
      fileReply client repository commit answer earlier path := by
  rw [fileReply, fileReply, asked_append_of_ne n h]

theorem downloads_counting (hdistinct : paths.Nodup) (earlier : List Request) :
    downloads client repository commit (counting answer) earlier paths =
      paths.map fun path => (path, fileReply client repository commit answer earlier path) := by
  induction paths generalizing earlier with
  | nil => rfl
  | cons path paths ih =>
    obtain ⟨hpath, hrest⟩ := List.nodup_cons.mp hdistinct
    let r := client.contentsRequest repository (.str commit) path
    obtain ⟨hattempts, hfinal⟩ := reading_counting answer earlier r
    have hothers : ∀ other ∈ paths, fileReply client repository commit answer
        (earlier ++ attempts (counting answer) earlier r) other =
          fileReply client repository commit answer earlier other := by
      intro other hother
      rw [hattempts]
      refine fileReply_append_of_ne (fun hline => hpath ?_) _
      rw [client.fileLine_injective repository commit hline]
      exact hother
    have htail := ih hrest (earlier ++ attempts (counting answer) earlier r)
    rw [List.map_congr_left fun other hother => by rw [hothers other hother]] at htail
    calc downloads client repository commit (counting answer) earlier (path :: paths)
        = (path, finalReply (counting answer) earlier r) ::
            downloads client repository commit (counting answer)
              (earlier ++ attempts (counting answer) earlier r) paths := rfl
      _ = (path :: paths).map fun other =>
            (other, fileReply client repository commit answer earlier other) := by
          rw [hfinal, htail]
          rfl

theorem fetchesOwn_fetchEach (client : Client) (repository commit : String)
    (answer : String → Nat → Reply) :
    FetchesOwn client repository commit answer (fetchEach client) := by
  intro paths journal hdistinct
  obtain ⟨later, hrun⟩ :=
    run_fetchEach client repository commit paths (counting answer) journal
  refine ⟨later, ?_⟩
  rw [hrun, downloads_counting hdistinct, List.map_map]
  rfl

theorem fetchesOwn_fetchInterleaved (client : Client) (repository commit : String)
    (answer : String → Nat → Reply) (schedule : List Nat) :
    FetchesOwn client repository commit answer (fetchInterleaved client schedule) := by
  intro paths journal hdistinct
  have hstart := underway_start client repository commit answer journal.requests paths
  obtain ⟨later, hrun, -⟩ := Session.exists_run_interleave schedule
    (paths.map fun path => file client repository path commit) (counting answer) journal
  refine ⟨later, ?_⟩
  have hsessions : (paths.map Listed.text).map (listedFile client repository commit) =
      paths.map fun path => file client repository path commit :=
    List.map_map
  have hshown : (paths.map Listed.text).map Listed.shown = paths := by
    rw [List.map_map]
    exact List.map_id paths
  rw [fetchInterleaved, hsessions, hshown, Session.run_bind_of_ok hrun,
    (hstart.run hdistinct schedule).finish hdistinct, Session.run_pure,
    List.map_prod_left_eq_zip]

end Fetch

section Sources

variable {client : Client} {limits : Limits} {suffixes : List String} {repository commit : String}
  {answer other : String → Nat → Reply} {journal : Journal} {fetch : Fetch}

def treeReply (client : Client) (repository commit : String) (answer : String → Nat → Reply)
    (earlier : List Request) : Reply :=
  settled answer (client.treeRequest repository commit).line
    (asked earlier (client.treeRequest repository commit).line)

def ownTexts (client : Client) (repository commit : String) (answer : String → Nat → Reply)
    (earlier : List Request) (paths : List String) : Dict String :=
  paths.filterMap fun path =>
    (text? (fileReply client repository commit answer earlier path)).map (path, ·)

def sourcesInterleaved (schedule : List Nat) (client : Client) (limits : Limits)
    (suffixes : List String) (repository commit : String) : Session (Dict String) :=
  sources client limits suffixes repository commit (fetchInterleaved client schedule)

theorem map_fst_ownTexts_sublist (client : Client) (repository commit : String)
    (answer : String → Nat → Reply) (earlier : List Request) (paths : List String) :
    ((ownTexts client repository commit answer earlier paths).map Prod.fst).Sublist paths := by
  rw [ownTexts]
  induction paths with
  | nil => exact List.Sublist.refl _
  | cons path paths ih =>
    rw [List.filterMap_cons]
    cases text? (fileReply client repository commit answer earlier path) with
    | none => exact ih.cons path
    | some text => exact ih.cons_cons path

section Other

variable {path : String}
  (hother : ∀ line, line ≠ client.fileLine repository commit path → other line = answer line)
  (earlier : List Request)

include hother

theorem fileReply_congr {name : String} (hname : name ≠ path) :
    fileReply client repository commit other earlier name =
      fileReply client repository commit answer earlier name := by
  have hline : client.fileLine repository commit name ≠ client.fileLine repository commit path :=
    fun hsame => hname (client.fileLine_injective repository commit hsame)
  rw [fileReply, fileReply, settled, settled, hother _ hline]

theorem treeReply_congr : treeReply client repository commit other earlier =
    treeReply client repository commit answer earlier := by
  rw [treeReply, treeReply, settled, settled,
    hother _ (client.line_tree_ne_fileLine repository commit path)]

theorem filter_ownTexts_congr (paths : List String) :
    (ownTexts client repository commit other earlier paths).filter (·.1 ≠ path) =
      (ownTexts client repository commit answer earlier paths).filter (·.1 ≠ path) := by
  have hdropped (text : Option String) :
      (text.map (path, ·)).filter (fun entry => decide (entry.1 ≠ path)) = none := by
    cases text with
    | none => rfl
    | some text => simp
  rw [ownTexts, ownTexts, List.filter_filterMap, List.filter_filterMap]
  refine List.filterMap_congr fun name _ => ?_
  by_cases hname : name = path
  · rw [hname, hdropped, hdropped]
  · rw [fileReply_congr hother earlier hname]

end Other

section Outcome

variable (hl : limits.Positive)
  (htree : (treeReply client repository commit answer journal.requests).fails = true ∨
    ∃ v, (treeReply client repository commit answer journal.requests).document = .ok v ∧ IsTree v)
  (hdistinct : (chosen limits suffixes
    (treeReply client repository commit answer journal.requests)).Nodup)

include hl htree hdistinct

theorem run_sourcesBy_of_fetchesOwn (hfetch : FetchesOwn client repository commit answer fetch) :
    ((sources client limits suffixes repository commit fetch).run (counting answer) journal).1 =
      (keptTexts ((chosen limits suffixes
        (treeReply client repository commit answer journal.requests)).map fun path =>
          (path, replyText (fileReply client repository commit answer journal.requests path)))).map
            Dict.gather := by
  let r := client.treeRequest repository commit
  obtain ⟨hattempts, hfinal⟩ := reading_counting answer journal.requests r
  have hreply : finalReply (counting answer) journal.requests r =
      treeReply client repository commit answer journal.requests := hfinal
  obtain ⟨middle, hlisting, hsent⟩ := run_tree hl suffixes journal (hreply ▸ htree)
  have hchosen : ((listed suffixes (finalReply (counting answer) journal.requests r)).take
      (limits.count .maxTreeCandidates)).take (limits.count .maxFetchedFiles) =
        chosen limits suffixes (treeReply client repository commit answer journal.requests) := by
    rw [hreply, List.take_take, Nat.min_comm, chosen]
  obtain ⟨later, hfetched⟩ := hfetch _ middle hdistinct
  rw [← hchosen] at hfetched ⊢
  rw [run_sourcesBy hl hlisting hfetched (fun hnil => by rw [hnil]; rfl)]
  have hown (path : String) : fileReply client repository commit answer middle.requests path =
      fileReply client repository commit answer journal.requests path := by
    rw [hsent, hattempts]
    exact fileReply_append_of_ne (client.line_tree_ne_fileLine repository commit path) _
  simp only [hown]

theorem run_sources_of_isReadable
    (hreadable : ∀ path ∈ chosen limits suffixes
        (treeReply client repository commit answer journal.requests),
      IsReadable (fileReply client repository commit answer journal.requests path)) :
    ((sources client limits suffixes repository commit).run (counting answer) journal).1 =
      .ok (ownTexts client repository commit answer journal.requests
        (chosen limits suffixes
          (treeReply client repository commit answer journal.requests))) := by
  rw [run_sourcesBy_of_fetchesOwn hl htree hdistinct
    (fetchesOwn_fetchEach client repository commit answer)]
  rw [keptTexts_of_ok (fun path => text? (fileReply client repository commit answer
    journal.requests path)) fun path hpath => (hreadable path hpath).replyText_eq]
  refine congrArg Except.ok (Dict.gather_of_nodup ?_)
  exact (map_fst_ownTexts_sublist client repository commit answer journal.requests _).nodup
    hdistinct

theorem run_sourcesInterleaved (schedule : List Nat) :
    ((sourcesInterleaved schedule client limits suffixes repository commit).run (counting answer)
        journal).1 =
      ((sources client limits suffixes repository commit).run (counting answer) journal).1 := by
  rw [sourcesInterleaved,
    run_sourcesBy_of_fetchesOwn hl htree hdistinct
      (fetchesOwn_fetchEach client repository commit answer),
    run_sourcesBy_of_fetchesOwn hl htree hdistinct
      (fetchesOwn_fetchInterleaved client repository commit answer schedule)]

end Outcome

theorem sources_interleaved (hl : limits.Positive) (client : Client) (suffixes : List String)
    (repository commit : String) (answer : String → Nat → Reply) (journal : Journal)
    (htree : (treeReply client repository commit answer journal.requests).fails = true ∨
      ∃ v, (treeReply client repository commit answer journal.requests).document = .ok v ∧ IsTree v)
    (hdistinct : (chosen limits suffixes
      (treeReply client repository commit answer journal.requests)).Nodup) :
    let paths := chosen limits suffixes
      (treeReply client repository commit answer journal.requests)
    (∀ schedule, ((sourcesInterleaved schedule client limits suffixes repository commit).run
        (counting answer) journal).1 =
      ((sources client limits suffixes repository commit).run (counting answer) journal).1) ∧
    ((∀ path ∈ paths,
        IsReadable (fileReply client repository commit answer journal.requests path)) →
      ((sources client limits suffixes repository commit).run (counting answer) journal).1 =
        .ok (ownTexts client repository commit answer journal.requests paths) ∧
      ∀ (other : String → Nat → Reply) (path : String),
        (∀ line, line ≠ client.fileLine repository commit path → other line = answer line) →
        IsReadable (fileReply client repository commit other journal.requests path) →
        ∃ texts, (∀ schedule, ((sourcesInterleaved schedule client limits suffixes repository
            commit).run (counting other) journal).1 = .ok texts) ∧
          texts.filter (·.1 ≠ path) =
            (ownTexts client repository commit answer journal.requests paths).filter
              (·.1 ≠ path)) := by
  intro paths
  refine ⟨run_sourcesInterleaved hl htree hdistinct, fun hreadable => ?_⟩
  refine ⟨run_sources_of_isReadable hl htree hdistinct hreadable, ?_⟩
  intro other path hother hpath
  have hsame := treeReply_congr hother journal.requests
  rw [← hsame] at htree hdistinct
  have hfiles : ∀ name ∈ paths,
      IsReadable (fileReply client repository commit other journal.requests name) := by
    intro name hname
    by_cases hchanged : name = path
    · exact hchanged ▸ hpath
    · rw [fileReply_congr hother journal.requests hchanged]
      exact hreadable name hname
  refine ⟨_, fun schedule => ?_, filter_ownTexts_congr hother journal.requests paths⟩
  rw [run_sourcesInterleaved hl htree hdistinct,
    run_sources_of_isReadable hl htree hdistinct (by rwa [hsame]), hsame]

end Sources

section Pair

def pairLine (path : String) : String :=
  relayClient.fileLine "acme/shop" "c0ffee" path

def lateFile (content : String) (count : Nat) : Reply :=
  if count = 0 then .breakdown .timeout "slow" else .response (encodedFile content)

def pairAnswer (second : Nat → Reply) (line : String) (count : Nat) : Reply :=
  if line = pairLine "a.py" then lateFile "YQo=" count
  else if line = pairLine "b.py" then second count
  else .response ⟨200, .document relayTree, none⟩

variable (second : Nat → Reply)

theorem treeReply_pairAnswer : treeReply relayClient "acme/shop" "c0ffee" (pairAnswer second) [] =
    .response ⟨200, .document relayTree, none⟩ := by
  have hfirst : (relayClient.treeRequest "acme/shop" "c0ffee").line ≠ pairLine "a.py" :=
    relayClient.line_tree_ne_fileLine _ _ _
  have hsecond : (relayClient.treeRequest "acme/shop" "c0ffee").line ≠ pairLine "b.py" :=
    relayClient.line_tree_ne_fileLine _ _ _
  rw [treeReply, settled, pairAnswer, if_neg hfirst, if_neg hsecond]
  rfl

theorem fileReply_pairAnswer_first :
    fileReply relayClient "acme/shop" "c0ffee" (pairAnswer second) [] "a.py" =
      .response (encodedFile "YQo=") := by
  have hline : relayClient.fileLine "acme/shop" "c0ffee" "a.py" = pairLine "a.py" := rfl
  rw [fileReply, settled, pairAnswer, pairAnswer, if_pos hline, if_pos hline]
  rfl

theorem fileReply_pairAnswer_second :
    fileReply relayClient "acme/shop" "c0ffee" (pairAnswer second) [] "b.py" =
      if (second 0).isTransient then second 1 else second 0 := by
  have hline : relayClient.fileLine "acme/shop" "c0ffee" "b.py" = pairLine "b.py" := rfl
  have hne : relayClient.fileLine "acme/shop" "c0ffee" "b.py" ≠ pairLine "a.py" := fun hsame =>
    absurd (relayClient.fileLine_injective _ _ hsame) (by decide)
  rw [fileReply, settled, pairAnswer, pairAnswer, if_neg hne, if_neg hne, if_pos hline,
    if_pos hline]
  rfl

theorem pairAnswer_of_ne {line : String} (h : line ≠ pairLine "b.py")
    (second other : Nat → Reply) : pairAnswer second line = pairAnswer other line := by
  funext count
  rw [pairAnswer, pairAnswer, if_neg h, if_neg h]

theorem chosen_pairAnswer : chosen {} pythonSuffixes
    (treeReply relayClient "acme/shop" "c0ffee" (pairAnswer second) []) = ["a.py", "b.py"] := by
  rw [treeReply_pairAnswer]
  decide +kernel

theorem isReadable_encodedFile {content : String} (h : IsAscii content) :
    IsReadable (.response (encodedFile content)) :=
  isReadable_of_documented (Or.inr (exists_document_encodedFile h))

theorem isTree_pairAnswer :
    ∃ v, (treeReply relayClient "acme/shop" "c0ffee" (pairAnswer second) []).document = .ok v ∧
      IsTree v := by
  rw [treeReply_pairAnswer]
  exact ⟨_, rfl, isTree_relayTree⟩

theorem nodup_chosen_pairAnswer : (chosen {} pythonSuffixes
    (treeReply relayClient "acme/shop" "c0ffee" (pairAnswer second) [])).Nodup := by
  rw [chosen_pairAnswer]
  decide

theorem sources_interleaved_late :
    (((sourcesInterleaved [1, 0, 1, 0] relayClient {} pythonSuffixes "acme/shop" "c0ffee").run
        (counting (pairAnswer (lateFile "Ygo="))) ⟨[], []⟩).2.requests.map Request.line).tail =
      [pairLine "b.py", pairLine "a.py", pairLine "b.py", pairLine "a.py"] ∧
    (∀ schedule, ((sourcesInterleaved schedule relayClient {} pythonSuffixes "acme/shop"
        "c0ffee").run (counting (pairAnswer (lateFile "Ygo="))) ⟨[], []⟩).1 =
      .ok [("a.py", "a\n"), ("b.py", "b\n")]) ∧
    ∃ texts, (∀ schedule, ((sourcesInterleaved schedule relayClient {} pythonSuffixes "acme/shop"
        "c0ffee").run (counting (pairAnswer fun _ => .response ⟨404, .raw "", none⟩))
          ⟨[], []⟩).1 = .ok texts) ∧
      texts.filter (·.1 ≠ "b.py") = [("a.py", "a\n")] := by
  have hascii : IsAscii "YQo=" ∧ IsAscii "Ygo=" := by decide +kernel
  have hsecond : fileReply relayClient "acme/shop" "c0ffee" (pairAnswer (lateFile "Ygo=")) []
      "b.py" = .response (encodedFile "Ygo=") :=
    fileReply_pairAnswer_second _
  have htexts : ownTexts relayClient "acme/shop" "c0ffee" (pairAnswer (lateFile "Ygo=")) []
      ["a.py", "b.py"] = [("a.py", "a\n"), ("b.py", "b\n")] := by
    have hfirst : text? (.response (encodedFile "YQo=")) = some "a\n" := by decide +kernel
    have hlast : text? (.response (encodedFile "Ygo=")) = some "b\n" := by decide +kernel
    simp [ownTexts, fileReply_pairAnswer_first, hsecond, hfirst, hlast]
  obtain ⟨hsame, hrest⟩ := sources_interleaved Limits.positive_default relayClient pythonSuffixes
    "acme/shop" "c0ffee" (pairAnswer (lateFile "Ygo=")) ⟨[], []⟩
    (Or.inr (isTree_pairAnswer _)) (nodup_chosen_pairAnswer _)
  rw [chosen_pairAnswer] at hrest
  obtain ⟨hwhole, hisolated⟩ := hrest fun path hpath => by
    rcases List.mem_pair.mp hpath with rfl | rfl
    · rw [fileReply_pairAnswer_first]
      exact isReadable_encodedFile hascii.1
    · rw [hsecond]
      exact isReadable_encodedFile hascii.2
  obtain ⟨texts, hothers, hfilter⟩ := hisolated
    (pairAnswer fun _ => .response ⟨404, .raw "", none⟩) "b.py"
    (fun line hline => pairAnswer_of_ne hline _ _)
    (by rw [fileReply_pairAnswer_second]; exact Or.inl rfl)
  rw [htexts] at hwhole hfilter
  refine ⟨by decide +kernel, fun schedule => (hsame schedule).trans hwhole, texts, hothers, ?_⟩
  rw [hfilter]
  decide

theorem run_sources_deepFile {depth : Nat} (h : Json.maxDepth ≤ depth) :
    ((sources relayClient {} pythonSuffixes "acme/shop" "c0ffee").run
      (counting (pairAnswer fun _ => .response ⟨200, .raw (Scope.deepText depth), none⟩))
        ⟨[], []⟩).1 = .error (.fault .tooDeep) := by
  have hdeep : (Reply.response ⟨200, .raw (Scope.deepText depth), none⟩).document =
      .error (.fault .tooDeep) :=
    Scope.document_deepNetwork h [] (relayClient.treeRequest "acme/shop" "c0ffee")
  rw [run_sourcesBy_of_fetchesOwn Limits.positive_default
    (Or.inr (isTree_pairAnswer _)) (nodup_chosen_pairAnswer _) (fetchesOwn_fetchEach _ _ _ _),
    chosen_pairAnswer]
  have hreadable : IsReadable (.response (encodedFile "YQo=")) :=
    isReadable_encodedFile (by decide +kernel)
  have hfault : replyText (.response ⟨200, .raw (Scope.deepText depth), none⟩) =
      .error (.fault .tooDeep) := by
    rw [replyText, replyFields, hdeep]
    rfl
  have hsecond : fileReply relayClient "acme/shop" "c0ffee"
      (pairAnswer fun _ => .response ⟨200, .raw (Scope.deepText depth), none⟩) [] "b.py" =
        .response ⟨200, .raw (Scope.deepText depth), none⟩ :=
    fileReply_pairAnswer_second _
  simp only [List.map_cons, List.map_nil, fileReply_pairAnswer_first, hsecond, hfault,
    hreadable.replyText_eq]
  rfl

/-- One body that is given up on keeps back the text of the other file. -/
theorem sources_deepFile :
    text? (fileReply relayClient "acme/shop" "c0ffee"
      (pairAnswer fun _ => .response ⟨200, .raw (Scope.deepText 3000), none⟩) [] "a.py") =
        some "a\n" ∧
    ((sources relayClient {} pythonSuffixes "acme/shop" "c0ffee").run
      (counting (pairAnswer fun _ => .response ⟨200, .raw (Scope.deepText 3000), none⟩))
        ⟨[], []⟩).1 = .error (.fault .tooDeep) := by
  refine ⟨?_, run_sources_deepFile (by decide)⟩
  rw [fileReply_pairAnswer_first]
  decide +kernel

end Pair

end Snapshot

end DiffReach
