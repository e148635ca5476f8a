import DiffReach.Proofs.Dict
import DiffReach.Proofs.Host.Interruption
import DiffReach.Proofs.Limits
import DiffReach.Snapshot

namespace DiffReach

open Host

namespace Snapshot

def replyFields (reply : Reply) : Except Stop (Option (Dict Value)) :=
  match reply.document with
  | .ok v => .ok (some (Client.fields v))
  | .error (.failure _) => .ok none
  | .error (.fault fault) => .error (.fault fault)

def replyText (reply : Reply) : Except Stop (Option String) := do
  match (← replyFields reply).bind encodedContent? with
  | none => .ok none
  | some content =>
      match decodeContent content with
      | .ok text => .ok text.toOption
      | .error fault => .error (.fault fault)

/-- As `replyText`; a reply that ends in a fault has no text either. -/
def text? (reply : Reply) : Option String :=
  (replyText reply).toOption.join

def supported? (suffixes : List String) : Value → Option String
  | .object fields =>
      match Dict.fetch fields "type", Dict.fetch fields "path" with
      | some (.str "blob"), some (.str path) =>
          if Path.suffix path ∈ suffixes then some path else none
      | _, _ => none
  | _ => none

def listed (suffixes : List String) (reply : Reply) : List String :=
  match reply.document with
  | .ok v => (Client.items (((Client.fields v).fetch "tree").getD .null)).filterMap
      (supported? suffixes)
  | .error _ => []

def chosen (limits : Limits) (suffixes : List String) (reply : Reply) : List String :=
  (listed suffixes reply).take
    (min (limits.count .maxTreeCandidates) (limits.count .maxFetchedFiles))

/-- The path of an entry, where it is a string, is a text without a surrogate that stands alone. -/
def IsTreeEntry (item : Value) : Prop :=
  ∃ fields, item = .object fields ∧ ∀ path, Dict.fetch fields "path" ≠ some (.torn path)

def IsTree (v : Value) : Prop :=
  ∃ fields, v = .object fields ∧ ∀ items, Dict.fetch fields "tree" = some (.list items) →
    ∀ item ∈ items, IsTreeEntry item

def IsAscii (s : String) : Prop :=
  ∀ c ∈ s.toList, c.toNat < 0x80

instance (s : String) : Decidable (IsAscii s) :=
  List.decidableBAll _ s.toList

def IsContents (v : Value) : Prop :=
  ∃ fields, v = .object fields ∧ (Dict.fetch fields "content" = none ∨
    ∃ content, Dict.fetch fields "content" = some (.str content) ∧ IsAscii content)

def IsReadable (reply : Reply) : Prop :=
  reply.fails = true ∨ ∃ v, reply.document = .ok v ∧
    ∀ content, encodedContent? (Client.fields v) = some content → IsAscii content

section File

variable {network : Network} {client : Client} {repository commit : String}

theorem replyFields_of_fails {reply : Reply} (h : reply.fails = true) :
    replyFields reply = .ok none := by
  obtain ⟨failure, hfailure⟩ := Reply.fails_eq_true_iff.mp h
  rw [replyFields, hfailure]

theorem replyFields_of_ok {reply : Reply} {v : Value} (h : reply.document = .ok v) :
    replyFields reply = .ok (some (Client.fields v)) := by
  rw [replyFields, h]

theorem run_recover_read {reading : Session (Dict Value)} {r : Request}
    (hreading : reading = do let v ← Client.read r; pure (Client.fields v))
    (event : Failure → Event) (network : Network) (journal : Journal) :
    ∃ later, (Session.recover (do
        let fields ← reading
        pure (some fields)) fun failure => do
          Session.report (event failure)
          pure none).run network journal =
        (replyFields (finalReply network journal.requests r), later) ∧
      later.requests = journal.requests ++ attempts network journal.requests r := by
  obtain ⟨middle, hread, hsent⟩ := Client.run_read r network journal
  rw [← hsent, hreading, Session.run_recover, Session.run_map, Session.run_map, hread, replyFields]
  cases (finalReply network journal.requests r).document with
  | ok v => exact ⟨_, rfl, rfl⟩
  | error cause =>
    cases cause with
    | failure failure => exact ⟨_, rfl, rfl⟩
    | fault fault => exact ⟨_, rfl, rfl⟩

theorem run_file (client : Client) (repository path commit : String) (network : Network)
    (journal : Journal) :
    let r := client.contentsRequest repository (.str commit) path
    ∃ later, (file client repository path commit).run network journal =
        (replyText (finalReply network journal.requests r), later) ∧
      later.requests = journal.requests ++ attempts network journal.requests r := by
  intro r
  have hreading : client.contents repository path (.str commit) =
      (do let v ← Client.read r; pure (Client.fields v)) := rfl
  obtain ⟨middle, hfields, hsent⟩ :=
    run_recover_read hreading (.fileUnavailable path commit) network journal
  rw [← hsent, file, Session.run_bind, hfields, replyText]
  cases replyFields (finalReply network journal.requests r) with
  | error cause => exact ⟨_, rfl, rfl⟩
  | ok fetched =>
    simp only [bind, Except.bind]
    cases fetched.bind encodedContent? with
    | none => exact ⟨_, rfl, rfl⟩
    | some content =>
      dsimp only
      cases decodeContent content with
      | error fault => exact ⟨_, rfl, rfl⟩
      | ok text =>
        cases text with
        | ok text => exact ⟨_, rfl, rfl⟩
        | error cause => exact ⟨_, rfl, rfl⟩

def downloads (client : Client) (repository commit : String) (network : Network)
    (earlier : List Request) (paths : List String) : List (String × Reply) :=
  paths.zip (finalReplies network earlier
    (paths.map (client.contentsRequest repository (.str commit))))

theorem exists_eq_finalReply {earlier : List Request} {paths : List String} {d : String × Reply}
    (h : d ∈ downloads client repository commit network earlier paths) :
    ∃ sent, d.2 =
      finalReply network sent (client.contentsRequest repository (.str commit) d.1) := by
  induction paths generalizing earlier with
  | nil => cases h
  | cons path paths ih =>
    rcases List.mem_cons.mp h with rfl | h
    · exact ⟨earlier, rfl⟩
    · exact ih h

theorem run_fetchEach (client : Client) (repository commit : String) (paths : List String)
    (network : Network) (journal : Journal) :
    ∃ later, (fetchEach client repository commit (paths.map .text)).run network journal =
      (.ok ((downloads client repository commit network journal.requests paths).map
        fun d => (d.1, replyText d.2)), later) := by
  induction paths generalizing journal with
  | nil => exact ⟨journal, rfl⟩
  | cons path paths ih =>
    obtain ⟨middle, hfile, hsent⟩ := run_file client repository path commit network journal
    obtain ⟨later, hrest⟩ := ih middle
    refine ⟨later, ?_⟩
    have hheld : (Session.hold (listedFile client repository commit (.text path))).run network
        journal = (.ok (replyText (finalReply network journal.requests
          (client.contentsRequest repository (.str commit) path))), middle) := by
      rw [Session.run_hold, listedFile, hfile]
    rw [List.map_cons, fetchEach, Session.run_bind_of_ok hheld, Session.run_bind_of_ok hrest, hsent]
    rfl

end File

def keptTexts : List (String × Except Stop (Option String)) →
    Except Stop (List (String × String))
  | [] => .ok []
  | (path, outcome) :: rest => do
      let text ← outcome
      let texts ← keptTexts rest
      pure (match text with
        | some text => (path, text) :: texts
        | none => texts)

theorem run_keepTexts (found : List (String × Except Stop (Option String))) (network : Network)
    (journal : Journal) : (keepTexts found).run network journal = (keptTexts found, journal) := by
  induction found with
  | nil => rfl
  | cons entry rest ih =>
    obtain ⟨path, outcome⟩ := entry
    cases outcome with
    | error cause => rfl
    | ok text =>
      rw [keepTexts, Session.run_bind_of_ok (Session.run_release (.ok text) network journal),
        Session.run_map, ih]
      rfl

theorem keptTexts_of_ok {α : Type} {xs : List α} {path : α → String}
    {outcome : α → Except Stop (Option String)} (text : α → Option String)
    (h : ∀ x ∈ xs, outcome x = .ok (text x)) :
    keptTexts (xs.map fun x => (path x, outcome x)) =
      .ok (xs.filterMap fun x => (text x).map (path x, ·)) := by
  induction xs with
  | nil => rfl
  | cons x xs ih =>
    obtain ⟨hx, hxs⟩ := List.forall_mem_cons.mp h
    rw [List.map_cons, keptTexts, hx, ih hxs]
    cases hfound : text x with
    | none => simp [hfound]; rfl
    | some text => simp [hfound]; rfl

section Tree

variable {network : Network} {client : Client} {limits : Limits} {suffixes : List String}
  {repository commit : String}

theorem candidate?_eq {entry : Value} (h : IsTreeEntry entry) :
    candidate? suffixes entry = .ok ((supported? suffixes entry).map .text) := by
  obtain ⟨fields, rfl, htext⟩ := h
  rw [candidate?, Value.field, Value.field, supported?]
  change Except.ok _ = _
  congr 1
  cases Dict.fetch fields "type" with
  | none => rfl
  | some type =>
    cases hpath : Dict.fetch fields "path" with
    | none =>
      simp only [Option.getD_none, Option.getD_some]
      split <;> rfl
    | some path =>
      simp only [Option.getD_some]
      split
      · cases path with
        | str path =>
          by_cases hsuffix : Path.suffix path ∈ suffixes <;>
            simp [Listed.ofValue?, Listed.shown, hsuffix]
        | torn path => exact absurd hpath (htext path)
        | _ => rfl
      · rename_i hblob
        split
        · rename_i heq _
          exact absurd (Option.some.inj heq) hblob
        · rfl

theorem candidates_eq {entries : List Value} (h : ∀ entry ∈ entries, IsTreeEntry entry) :
    candidates suffixes entries = .ok ((entries.filterMap (supported? suffixes)).map .text) := by
  induction entries with
  | nil => rfl
  | cons entry entries ih =>
    obtain ⟨hentry, hrest⟩ := List.forall_mem_cons.mp h
    rw [candidates, candidate?_eq hentry, ih hrest]
    cases hpath : supported? suffixes entry with
    | none => simp [hpath]; rfl
    | some path => simp [hpath]; rfl

theorem run_tree (hl : limits.Positive) (suffixes : List String) (journal : Journal)
    (h : (finalReply network journal.requests (client.treeRequest repository commit)).fails = true ∨
      ∃ v, (finalReply network journal.requests (client.treeRequest repository commit)).document =
        .ok v ∧ IsTree v) :
    let r := client.treeRequest repository commit
    ∃ later, (tree client limits suffixes repository commit).run network journal =
        (.ok (((listed suffixes (finalReply network journal.requests r)).take
          (limits.count .maxTreeCandidates)).map .text), later) ∧
      later.requests = journal.requests ++ attempts network journal.requests r := by
  intro r
  have hreading : client.tree repository commit =
      (do let v ← Client.read r; pure (Client.fields v)) := rfl
  obtain ⟨middle, hfields, hsent⟩ :=
    run_recover_read hreading (.treeUnavailable repository commit) network journal
  have hlimit : limits.maxTreeCandidates = .int (limits.count .maxTreeCandidates) :=
    hl.get_eq .maxTreeCandidates (by decide)
  rw [← hsent, listed]
  rcases h with hfails | ⟨v, hv, fields, rfl, hitems⟩
  · rw [replyFields_of_fails hfails] at hfields
    obtain ⟨failure, hfailure⟩ := Reply.fails_eq_true_iff.mp hfails
    rw [hfailure]
    refine ⟨middle, ?_, rfl⟩
    rw [tree, treeFields, Session.run_bind_of_ok hfields]
    simp [Session.run_pure]
  · rw [replyFields_of_ok hv] at hfields
    rw [hv]
    have hentries : ∀ entry ∈ Client.items ((Dict.fetch fields "tree").getD .null),
        IsTreeEntry entry := by
      cases htree : Dict.fetch fields "tree" with
      | none => simp [Client.items]
      | some found =>
        cases found with
        | list items => exact hitems items htree
        | _ => simp [Client.items]
    rw [tree, treeFields, Session.run_bind_of_ok hfields]
    simp only [Client.fields, candidates_eq hentries, Session.run_bind, Session.run_settle_ok,
      hlimit, Value.isExceededBy_natCast, Value.cut_natCast, List.map_take]
    split
    · exact ⟨_, rfl, rfl⟩
    · exact ⟨_, rfl, rfl⟩

end Tree

section Sources

variable {network : Network} {client : Client} {limits : Limits} {suffixes : List String}
  {repository commit : String} {fetch : Fetch}

theorem run_sourcesBy (hl : limits.Positive) {journal middle later : Journal} {paths : List String}
    {found : List (String × Except Stop (Option String))}
    (htree : (tree client limits suffixes repository commit).run network journal =
      (.ok (paths.map .text), middle))
    (hfetch : (fetch repository commit
      ((paths.take (limits.count .maxFetchedFiles)).map .text)).run network middle =
        (.ok found, later))
    (hnil : paths.take (limits.count .maxFetchedFiles) = [] → found = []) :
    ((sources client limits suffixes repository commit fetch).run network journal).1 =
      (keptTexts found).map Dict.gather := by
  have hcut : limits.maxFetchedFiles.cut (paths.map Listed.text) =
      .ok ((paths.take (limits.count .maxFetchedFiles)).map .text) := by
    rw [Limits.Counting.cut_maxFetchedFiles hl.whole, List.map_take]
  rw [sources, Session.run_bind_of_ok htree, hcut,
    Session.run_bind_of_ok (Session.run_settle_ok _ _ _)]
  split
  · rename_i hempty
    rw [hnil (List.map_eq_nil_iff.mp (List.isEmpty_iff.mp hempty))]
    rfl
  · obtain ⟨spare, hspare⟩ :=
      Limits.Counting.exists_allows hl.whole
        ((paths.take (limits.count .maxFetchedFiles)).map Listed.text).length
    rw [hspare, Session.run_bind_of_ok (Session.run_settle_ok _ _ _),
      Session.run_bind_of_ok hfetch, Session.run_bind, run_keepTexts]
    cases keptTexts found <;> rfl

def fetched (client : Client) (limits : Limits) (suffixes : List String)
    (repository commit : String) (network : Network) (earlier : List Request) :
    List (String × Reply) :=
  let r := client.treeRequest repository commit
  downloads client repository commit network (earlier ++ attempts network earlier r)
    (chosen limits suffixes (finalReply network earlier r))

def textsOf (files : List (String × Reply)) : Dict String :=
  Dict.gather (files.filterMap fun d => (text? d.2).map (d.1, ·))

theorem mem_names_textsOf {files : List (String × Reply)} {path : String} :
    path ∈ (textsOf files).names ↔ ∃ reply, (path, reply) ∈ files ∧ (text? reply).isSome := by
  rw [textsOf, Dict.mem_names_gather, List.mem_map]
  constructor
  · rintro ⟨entry, hentry, rfl⟩
    obtain ⟨d, hd, hmap⟩ := List.mem_filterMap.mp hentry
    obtain ⟨text, htext, rfl⟩ := Option.map_eq_some_iff.mp hmap
    exact ⟨d.2, hd, by simp [htext]⟩
  · rintro ⟨reply, hreply, hsome⟩
    obtain ⟨text, htext⟩ := Option.isSome_iff_exists.mp hsome
    exact ⟨(path, text), List.mem_filterMap.mpr ⟨_, hreply, by simp [htext]⟩, rfl⟩

theorem fetched_of_fails (limits : Limits) (suffixes : List String) {earlier : List Request}
    (h : (finalReply network earlier (client.treeRequest repository commit)).fails = true) :
    fetched client limits suffixes repository commit network earlier = [] := by
  obtain ⟨failure, hfailure⟩ := Reply.fails_eq_true_iff.mp h
  have hlisted : listed suffixes
      (finalReply network earlier (client.treeRequest repository commit)) = [] := by
    rw [listed, hfailure]
  simp [fetched, chosen, hlisted, downloads]

theorem run_sources (hl : limits.Positive) (journal : Journal)
    (h : (finalReply network journal.requests (client.treeRequest repository commit)).fails = true ∨
      ∃ v, (finalReply network journal.requests (client.treeRequest repository commit)).document =
        .ok v ∧ IsTree v) :
    ((sources client limits suffixes repository commit).run network journal).1 =
      (keptTexts ((fetched client limits suffixes repository commit network journal.requests).map
        fun d => (d.1, replyText d.2))).map Dict.gather := by
  obtain ⟨middle, htree, hsent⟩ := run_tree hl suffixes journal h
  obtain ⟨later, hfetch⟩ := run_fetchEach client repository commit
    (((listed suffixes (finalReply network journal.requests
      (client.treeRequest repository commit))).take
        (limits.count .maxTreeCandidates)).take (limits.count .maxFetchedFiles)) network middle
  rw [run_sourcesBy hl htree hfetch (fun hnil => by rw [hnil]; rfl), hsent,
    List.take_take, Nat.min_comm]
  rfl

theorem exists_decodeContent {content : String} (h : IsAscii content) :
    ∃ text, decodeContent content = .ok text := by
  have hascii : ¬ ((content.toList.filter (· != '\n')).any
      fun c => decide (0x80 ≤ c.toNat)) = true := by
    rw [Bool.not_eq_true, List.any_eq_false]
    intro c hc
    have hsmall := h c (List.mem_of_mem_filter hc)
    simp only [decide_eq_true_eq]
    omega
  rw [decodeContent, if_neg hascii]
  split
  · exact ⟨_, rfl⟩
  · split
    · exact ⟨_, rfl⟩
    · exact ⟨_, rfl⟩

theorem IsContents.isAscii {v : Value} (h : IsContents v) {content : String}
    (hcontent : encodedContent? (Client.fields v) = some content) : IsAscii content := by
  obtain ⟨fields, rfl, hnone | ⟨text, hsome, hascii⟩⟩ := h
  · simp [encodedContent?, Client.fields, hnone, Value.truthy] at hcontent
    split at hcontent <;> cases hcontent
  · simp only [encodedContent?, Client.fields, hsome, Option.getD_some, Value.text] at hcontent
    split at hcontent
    · split at hcontent
      · exact Option.some.inj hcontent ▸ hascii
      · cases hcontent
    · cases hcontent

theorem isReadable_of_documented {reply : Reply}
    (h : reply.fails = true ∨ ∃ v, reply.document = .ok v ∧ IsContents v) : IsReadable reply := by
  rcases h with hfails | ⟨v, hv, hkind⟩
  · exact Or.inl hfails
  · exact Or.inr ⟨v, hv, fun content hcontent => hkind.isAscii hcontent⟩

theorem IsReadable.replyText_eq {reply : Reply} (h : IsReadable reply) :
    replyText reply = .ok (text? reply) := by
  have hok : ∃ text, replyText reply = .ok text := by
    rcases h with hfails | ⟨v, hv, hascii⟩
    · rw [replyText, replyFields_of_fails hfails]
      exact ⟨none, rfl⟩
    · rw [replyText, replyFields_of_ok hv]
      simp only [bind, Except.bind, Option.bind_some]
      cases hcontent : encodedContent? (Client.fields v) with
      | none => exact ⟨none, rfl⟩
      | some content =>
        obtain ⟨text, htext⟩ := exists_decodeContent (hascii content hcontent)
        simp only [htext]
        exact ⟨_, rfl⟩
  obtain ⟨text, htext⟩ := hok
  rw [text?, htext]
  rfl

theorem exists_run_fetchEach (client : Client) (repository commit : String) (paths : List Listed)
    (network : Network) (journal : Journal) : ∃ outcomes later,
      (fetchEach client repository commit paths).run network journal = (.ok outcomes, later) := by
  induction paths generalizing journal with
  | nil => exact ⟨[], journal, rfl⟩
  | cons listed paths ih =>
    let result := (listedFile client repository commit listed).run network journal
    obtain ⟨outcomes, later, hrest⟩ := ih result.2
    refine ⟨(listed.shown, result.1) :: outcomes, later, ?_⟩
    rw [fetchEach, Session.run_bind_of_ok (Session.run_hold _ network journal)]
    exact Session.run_bind_of_ok hrest

/-- All files are fetched before it is seen that one of them could not be asked for. -/
theorem exists_run_fetchEach_of_torn {paths : List Listed} {torn : Text.Torn}
    (hcontents : ∀ path,
      Brings network (client.contentsRequest repository (.str commit) path) IsContents)
    (htorn : .torn torn ∈ paths) (journal : Journal) : ∃ outcomes later,
      (fetchEach client repository commit paths).run network journal = (.ok outcomes, later) ∧
        keptTexts outcomes = .error (.fault .unencodable) := by
  induction paths generalizing journal with
  | nil => cases htorn
  | cons listed paths ih =>
    have hheld := Session.run_hold (listedFile client repository commit listed) network journal
    cases listed with
    | torn path =>
      obtain ⟨outcomes, later, hrest⟩ :=
        exists_run_fetchEach client repository commit paths network journal
      refine ⟨(path.shown, .error (.fault .unencodable)) :: outcomes, later, ?_, rfl⟩
      rw [fetchEach, Session.run_bind_of_ok hheld]
      exact Session.run_bind_of_ok hrest
    | text path =>
      obtain ⟨middle, hfile, -⟩ := run_file client repository path commit network journal
      obtain ⟨text, htext⟩ : ∃ text, replyText (finalReply network journal.requests
          (client.contentsRequest repository (.str commit) path)) = .ok text :=
        ⟨_, (isReadable_of_documented ((hcontents path).final journal.requests)).replyText_eq⟩
      obtain ⟨outcomes, later, hothers, hkept⟩ := ih (by simpa using htorn) middle
      refine ⟨(path, .ok text) :: outcomes, later, ?_, ?_⟩
      · rw [listedFile, hfile, htext] at hheld
        rw [fetchEach, listedFile, Session.run_bind_of_ok hheld]
        exact Session.run_bind_of_ok hothers
      · rw [keptTexts, hkept]
        rfl

theorem exists_run_sources_of_torn (hl : limits.Positive) {journal middle : Journal}
    {paths : List Listed} {torn : Text.Torn}
    (hcontents : ∀ path,
      Brings network (client.contentsRequest repository (.str commit) path) IsContents)
    (htree : (tree client limits suffixes repository commit).run network journal =
      (.ok paths, middle))
    (htorn : .torn torn ∈ paths.take (limits.count .maxFetchedFiles)) :
    ∃ later, (sources client limits suffixes repository commit).run network journal =
      (.error (.fault .unencodable), later) := by
  obtain ⟨outcomes, later, hfetch, hkept⟩ := exists_run_fetchEach_of_torn hcontents htorn middle
  have hsome : ¬ (paths.take (limits.count .maxFetchedFiles)).isEmpty = true := by
    rw [List.isEmpty_iff]
    exact List.ne_nil_of_mem htorn
  obtain ⟨spare, hspare⟩ :=
    Limits.Counting.exists_allows hl.whole (paths.take (limits.count .maxFetchedFiles)).length
  refine ⟨later, ?_⟩
  rw [sources, Session.run_bind_of_ok htree, Limits.Counting.cut_maxFetchedFiles hl.whole,
    Session.run_bind_of_ok (Session.run_settle_ok _ _ _), if_neg hsome, hspare,
    Session.run_bind_of_ok (Session.run_settle_ok _ _ _), Session.run_bind_of_ok hfetch,
    Session.run_bind, run_keepTexts, hkept]

theorem run_sources_of_documented (hl : limits.Positive)
    (htree : Brings network (client.treeRequest repository commit) IsTree)
    (hcontents : ∀ path,
      Brings network (client.contentsRequest repository (.str commit) path) IsContents)
    (journal : Journal) :
    ((sources client limits suffixes repository commit).run network journal).1 =
      .ok (textsOf (fetched client limits suffixes repository commit network
        journal.requests)) := by
  rw [run_sources hl journal (htree.final journal.requests)]
  rw [keptTexts_of_ok (fun d => text? d.2) fun d hd => ?_]
  · rfl
  · obtain ⟨sent, hsent⟩ := exists_eq_finalReply hd
    rw [hsent]
    exact (isReadable_of_documented ((hcontents d.1).final sent)).replyText_eq

end Sources

end Snapshot

namespace Host

def relayClient : Client :=
  ⟨"t", "https://api.github.com", .int 20⟩

def relayTree : Value :=
  .object [("tree", .list [.object [("type", .str "blob"), ("path", .str "a.py")],
    .object [("type", .str "blob"), ("path", .str "b.py")]])]

def encodedFile (content : String) : Response :=
  ⟨200, .document (.object [("encoding", .str "base64"), ("content", .str content)]), none⟩

end Host

namespace Snapshot

theorem isTree_relayTree : IsTree relayTree := by
  refine ⟨_, rfl, fun items hitems item hitem => ?_⟩
  obtain rfl := Value.list.inj (Option.some.inj hitems)
  rcases List.mem_pair.mp hitem with rfl | rfl
  · exact ⟨_, rfl, fun _ hpath => (by cases hpath)⟩
  · exact ⟨_, rfl, fun _ hpath => (by cases hpath)⟩

theorem exists_document_encodedFile {content : String} (h : IsAscii content) :
    ∃ v, (Reply.response (encodedFile content)).document = .ok v ∧ IsContents v :=
  ⟨_, rfl, _, rfl, Or.inr ⟨_, rfl, h⟩⟩

end Snapshot

end DiffReach
