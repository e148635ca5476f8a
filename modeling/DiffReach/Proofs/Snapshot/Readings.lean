import DiffReach.Proofs.Host.Interleaving
import DiffReach.Snapshot

namespace DiffReach.Snapshot

open Host

variable {network : Network}

theorem sends_treeFields (client : Client) (repository commit : String) :
    (treeFields client repository commit).Sends network
      (· = [client.treeRequest repository commit]) := by
  refine Session.Sends.recover ?_ fun failure => ?_
  · exact (Session.sends_read_map _ Client.fields).bind_silent fun _ => Session.silent_pure _
  · exact (Session.silent_report _).bind fun _ => Session.silent_pure none

theorem sends_tree (client : Client) (limits : Limits) (suffixes : List String)
    (repository commit : String) :
    (tree client limits suffixes repository commit).Sends network
      (· = [client.treeRequest repository commit]) := by
  refine (sends_treeFields client repository commit).bind_silent fun fields => ?_
  cases fields with
  | none => exact Session.silent_pure _
  | some fields =>
    refine (Session.silent_settle _).bind fun paths => ?_
    refine (Session.silent_settle _).bind fun isOver => ?_
    cases isOver with
    | false => exact Session.silent_settle _
    | true => exact (Session.silent_report _).bind fun _ => Session.silent_settle _

theorem sends_file (client : Client) (repository path commit : String) :
    (file client repository path commit).Sends network
      (· = [client.contentsRequest repository (.str commit) path]) := by
  refine Session.Sends.bind_silent (Session.Sends.recover ?_ fun failure => ?_) fun fetched => ?_
  · exact (Session.sends_read_map _ Client.fields).bind_silent fun _ => Session.silent_pure _
  · exact (Session.silent_report _).bind fun _ => Session.silent_pure none
  · split
    · exact Session.silent_pure _
    · refine (Session.silent_settle _).bind fun decoded => ?_
      cases decoded with
      | ok text => exact Session.silent_pure _
      | error cause => exact (Session.silent_report _).bind fun _ => Session.silent_pure _

/-- The request for a listed file; a torn path stops before there is one. -/
def fileRequest? (client : Client) (repository commit : String) : Listed → Option Request
  | .text path => some (client.contentsRequest repository (.str commit) path)
  | .torn _ => none

theorem isPost_of_fileRequest? {client : Client} {repository commit : String} {listed : Listed}
    {r : Request} (h : fileRequest? client repository commit listed = some r) :
    r.isPost = false := by
  cases listed with
  | text path =>
    obtain rfl := Option.some.inj h
    rfl
  | torn path => cases h

theorem sends_listedFile (client : Client) (repository commit : String) (network : Network)
    (listed : Listed) : (listedFile client repository commit listed).Sends network
      (· = (fileRequest? client repository commit listed).toList) := by
  cases listed with
  | text path => exact sends_file client repository path commit
  | torn path => exact (Session.silent_settle _).sends

theorem sends_fetchEach (client : Client) (repository commit : String) (paths : List Listed) :
    (fetchEach client repository commit paths).Sends network
      (· = paths.filterMap (fileRequest? client repository commit)) := by
  induction paths with
  | nil => exact (Session.silent_pure _).sends
  | cons listed rest ih =>
    have hcons : (listed :: rest).filterMap (fileRequest? client repository commit) =
        (fileRequest? client repository commit listed).toList ++
          rest.filterMap (fileRequest? client repository commit) := by
      rw [List.filterMap_cons]
      cases fileRequest? client repository commit listed <;> rfl
    rw [hcons]
    refine Session.Sends.hold_bind (sends_listedFile client repository commit network listed)
      fun outcome => ?_
    exact ih.bind_silent fun outcomes => Session.silent_pure _

def fetchInterleaved (client : Client) (schedule : List Nat) : Fetch :=
  fun repository commit paths => do
    let outcomes ← Session.interleave schedule (paths.map (listedFile client repository commit))
    pure ((paths.map Listed.shown).zip outcomes)

def fetchIn (client : Client) : Order → Fetch
  | .inTurn => fetchEach client
  | .mixed schedule => fetchInterleaved client schedule

theorem sendsIn_fetchIn (client : Client) (order : Order) (repository commit : String)
    (paths : List Listed) (journal : Journal) :
    (fetchIn client order repository commit paths).SendsIn order network journal
      fun rs files =>
        rs = [] ∧ files = paths.filterMap (fileRequest? client repository commit) := by
  have hstart : journal.requests ++ transcript network journal.requests [] = journal.requests :=
    List.append_nil _
  cases order with
  | inTurn =>
    have hsends : (fetchEach client repository commit paths).SendsAt network journal _ :=
      sends_fetchEach client repository commit paths journal
    obtain ⟨_, rfl, hsent⟩ := hsends
    refine ⟨[], _, _, ⟨rfl, rfl⟩, Order.arranges_transcript _ _ _ _, ?_⟩
    rw [hstart]
    exact hsent
  | mixed schedule =>
    obtain ⟨sent, hsent, hoverlaps⟩ := Session.overlaps_interleave
      (sends_listedFile client repository commit) schedule paths network journal
    refine Session.SendsIn.bind_silent ⟨[], _, sent, ⟨rfl, rfl⟩, ⟨?_, nofun⟩, ?_⟩
      fun outcomes => Session.silent_pure _
    · rw [hstart]
      exact hoverlaps
    · rw [hstart]
      exact hsent

theorem silent_keepTexts (outcomes : List (String × Except Stop (Option String))) :
    (keepTexts outcomes).Silent := by
  induction outcomes with
  | nil => exact Session.silent_pure _
  | cons entry rest ih =>
    refine (Session.silent_release _).bind fun text => ?_
    exact ih.bind fun texts => Session.silent_pure _

/-- The readings that fetch sources: a listing and then files, as many of the listed ones as the
limits allow, or none. -/
def Asks (client : Client) (limits : Limits) (suffixes : List String) (repository commit : String)
    (network : Network) (journal : Journal) (rs files : List Request) : Prop :=
  rs = [client.treeRequest repository commit] ∧ ∃ chosen,
    files = chosen.filterMap (fileRequest? client repository commit) ∧ (chosen = [] ∨
      ∃ paths later,
        (tree client limits suffixes repository commit).run network journal = (.ok paths, later) ∧
          limits.maxFetchedFiles.cut paths = .ok chosen)

theorem Asks.isPost_eq_false {client : Client} {limits : Limits} {suffixes : List String}
    {repository commit : String} {journal : Journal} {rs files : List Request}
    (h : Asks client limits suffixes repository commit network journal rs files) :
    (∀ r ∈ rs, r.isPost = false) ∧ ∀ r ∈ files, r.isPost = false := by
  obtain ⟨rfl, chosen, rfl, -⟩ := h
  constructor
  · intro r hr
    rw [List.mem_singleton.mp hr]
    rfl
  · intro r hr
    obtain ⟨listed, -, hlisted⟩ := List.mem_filterMap.mp hr
    exact isPost_of_fileRequest? hlisted

theorem sendsIn_sources (client : Client) (limits : Limits) (suffixes : List String)
    (repository commit : String) (order : Order) (journal : Journal) :
    (sources client limits suffixes repository commit (fetchIn client order)).SendsIn order network
      journal (Asks client limits suffixes repository commit network journal) := by
  have hnone : Asks client limits suffixes repository commit network journal
      [client.treeRequest repository commit] [] :=
    ⟨rfl, [], rfl, Or.inl rfl⟩
  refine (sends_tree client limits suffixes repository commit journal).bind_sendsIn ?_ ?_
  · rintro _ rfl
    exact hnone
  rintro paths later _ htree rfl
  refine ((Session.silent_settle _).sends later).bind_sendsIn ?_ ?_
  · rintro _ rfl
    exact hnone
  rintro chosen later' _ hsettled rfl
  have hcut : limits.maxFetchedFiles.cut paths = .ok chosen :=
    Session.eq_ok_of_run_settle (congrArg Prod.fst hsettled)
  split
  · refine Session.SendsAt.sendsIn (((Session.silent_pure _).sends later').mono ?_) order
    rintro _ rfl
    exact hnone
  · refine ((Session.silent_settle _).sends later').bind_sendsIn ?_ ?_
    · rintro _ rfl
      exact hnone
    rintro _ later'' _ - rfl
    refine ((sendsIn_fetchIn client order repository commit chosen later'').mono ?_).bind_silent
      fun outcomes => ?_
    · rintro _ _ ⟨rfl, rfl⟩
      exact ⟨rfl, chosen, rfl, Or.inr ⟨paths, later, htree, hcut⟩⟩
    · refine (silent_keepTexts outcomes).bind fun texts => ?_
      exact (Session.silent_report _).bind fun _ => Session.silent_pure _

end DiffReach.Snapshot
