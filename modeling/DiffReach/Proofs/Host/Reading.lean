import DiffReach.Host.Client
import DiffReach.Proofs.Session

namespace DiffReach

namespace Host

namespace Reply

def isTransient : Reply → Bool
  | .response _ => false
  | .breakdown kind _ => kind.isTransient

def document : Reply → Except Stop Value
  | .response r =>
      if r.isOk then
        match r.body.read with
        | .ok v => .ok v
        | .error .malformed => .error (.failure .undecodable)
        | .error .tooManyDigits => .error (.fault .tooManyDigits)
        | .error .tooDeep => .error (.fault .tooDeep)
      else .error (.failure (.status r.status (Client.errorText r)))
  | .breakdown kind message => .error (.failure (.breakdown kind message))

/-- Whether a reply lacks a document in a way that is recovered from: a breakdown, an error status,
or a body that is malformed. -/
def fails (reply : Reply) : Bool :=
  match reply.document with
  | .error (.failure _) => true
  | _ => false

theorem fails_eq_true_iff {reply : Reply} :
    reply.fails = true ↔ ∃ failure, reply.document = .error (.failure failure) := by
  rw [fails]
  split <;> simp_all

theorem fails_eq_false_of_ok {reply : Reply} {v : Value} (h : reply.document = .ok v) :
    reply.fails = false := by
  rw [fails, h]

theorem fails_of_isTransient {reply : Reply} (h : reply.isTransient = true) :
    reply.fails = true := by
  cases reply with
  | response r => cases h
  | breakdown kind message => rfl

theorem document_eq_ok_iff {reply : Reply} {v : Value} : reply.document = .ok v ↔
    ∃ r, reply = .response r ∧ ¬ (400 ≤ r.status ∧ r.status ≤ 599) ∧ r.body.read = .ok v := by
  cases reply with
  | breakdown kind message => simp [document]
  | response r =>
    have hok : r.isOk = true ↔ ¬ (400 ≤ r.status ∧ r.status ≤ 599) := by
      rw [Response.isOk]
      simp
      omega
    simp only [response.injEq, exists_eq_left', ← hok, document]
    cases r.isOk with
    | false => simp
    | true =>
      cases r.body.read with
      | ok w => simp
      | error e => cases e <;> simp

end Reply

def attempts (network : Network) (earlier : List Request) (r : Request) : List Request :=
  if (network earlier r).isTransient then [r, r] else [r]

def retry (network : Network) (earlier : List Request) (r : Request) : List Event :=
  match network earlier r with
  | .response _ => []
  | .breakdown kind message =>
      if kind.isTransient then [.retrying r.url (.breakdown kind message)] else []

def finalReply (network : Network) (earlier : List Request) (r : Request) : Reply :=
  if (network earlier r).isTransient then network (earlier ++ [r]) r else network earlier r

def transcript (network : Network) : List Request → List Request → List Request
  | _, [] => []
  | earlier, r :: readings =>
      attempts network earlier r ++
        transcript network (earlier ++ attempts network earlier r) readings

def retries (network : Network) : List Request → List Request → List Event
  | _, [] => []
  | earlier, r :: readings =>
      retry network earlier r ++ retries network (earlier ++ attempts network earlier r) readings

def noted (network : Network) (journal : Journal) (readings : List Request) : Journal :=
  ⟨journal.requests ++ transcript network journal.requests readings,
    journal.events ++ retries network journal.requests readings⟩

def finalReplies (network : Network) : List Request → List Request → List Reply
  | _, [] => []
  | earlier, r :: readings =>
      finalReply network earlier r ::
        finalReplies network (earlier ++ attempts network earlier r) readings

def AnyFails (network : Network) : List Request → List Request → Prop
  | _, [] => False
  | earlier, r :: readings =>
      (finalReply network earlier r).fails = true ∨
        AnyFails network (earlier ++ attempts network earlier r) readings

variable {network : Network} {earlier : List Request}

theorem attempts_cases (r : Request) :
    attempts network earlier r = [r] ∨ attempts network earlier r = [r, r] := by
  rw [attempts]
  split
  · exact Or.inr rfl
  · exact Or.inl rfl

theorem attempts_eq_pair_iff {r : Request} : attempts network earlier r = [r, r] ↔
    ∃ kind message, network earlier r = .breakdown kind message ∧ kind.isTransient = true := by
  rw [attempts]
  cases network earlier r with
  | response resp => simp [Reply.isTransient]
  | breakdown kind message => cases hkind : kind.isTransient <;> simp [Reply.isTransient, hkind]

theorem transcript_append (first second : List Request) :
    transcript network earlier (first ++ second) = transcript network earlier first ++
      transcript network (earlier ++ transcript network earlier first) second := by
  induction first generalizing earlier with
  | nil => simp [transcript]
  | cons r first ih => simp [transcript, ih]

theorem mem_of_mem_transcript {rs : List Request} {r : Request}
    (h : r ∈ transcript network earlier rs) : r ∈ rs := by
  induction rs generalizing earlier with
  | nil => exact h
  | cons s rs ih =>
    rcases List.mem_append.mp h with h | h
    · have hcases : attempts network earlier s = [s] ∨ attempts network earlier s = [s, s] :=
        attempts_cases s
      rcases hcases with hs | hs <;> simp_all
    · exact List.mem_cons_of_mem s (ih h)

theorem noted_nil (network : Network) (journal : Journal) : noted network journal [] = journal := by
  simp [noted, transcript, retries]

theorem noted_singleton (network : Network) (journal : Journal) (r : Request) :
    noted network journal [r] = ⟨journal.requests ++ attempts network journal.requests r,
      journal.events ++ retry network journal.requests r⟩ := by
  simp [noted, transcript, retries]

theorem noted_cons (network : Network) (journal : Journal) (r : Request)
    (readings : List Request) : noted network journal (r :: readings) =
      noted network (noted network journal [r]) readings := by
  simp [noted, transcript, retries]

theorem exists_of_mem_retries {readings : List Request} {event : Event}
    (h : event ∈ retries network earlier readings) :
    ∃ url failure, event = .retrying url failure := by
  induction readings generalizing earlier with
  | nil => cases h
  | cons r readings ih =>
    rcases List.mem_append.mp h with h | h
    · rw [retry] at h
      split at h
      · cases h
      · split at h
        · exact ⟨_, _, List.mem_singleton.mp h⟩
        · cases h
    · exact ih h

theorem anyFails_append {first second : List Request} :
    AnyFails network earlier (first ++ second) ↔ AnyFails network earlier first ∨
      AnyFails network (earlier ++ transcript network earlier first) second := by
  induction first generalizing earlier with
  | nil => simp [AnyFails, transcript]
  | cons r first ih => simp [AnyFails, transcript, ih, or_assoc]

theorem transcript_singleton (r : Request) :
    transcript network earlier [r] = attempts network earlier r := by
  simp [transcript]

theorem anyFails_singleton {r : Request} :
    AnyFails network earlier [r] ↔ (finalReply network earlier r).fails = true := by
  simp [AnyFails]

theorem exists_attempts_eq_cons (network : Network) (earlier : List Request) (r : Request) :
    ∃ more, attempts network earlier r = r :: more := by
  rw [attempts]
  split
  · exact ⟨[r], rfl⟩
  · exact ⟨[], rfl⟩

theorem transcript_injective {xs ys : List Request}
    (h : transcript network earlier xs = transcript network earlier ys) : xs = ys := by
  induction xs generalizing earlier ys with
  | nil =>
    cases ys with
    | nil => rfl
    | cons s ys =>
      obtain ⟨more, hs⟩ := exists_attempts_eq_cons network earlier s
      simp [transcript, hs] at h
  | cons r xs ih =>
    obtain ⟨more, hr⟩ := exists_attempts_eq_cons network earlier r
    cases ys with
    | nil => simp [transcript, hr] at h
    | cons s ys =>
      obtain ⟨more', hs⟩ := exists_attempts_eq_cons network earlier s
      have hhead : r = s := by
        rw [transcript, transcript, hr, hs] at h
        exact (List.cons.inj h).1
      subst hhead
      rw [ih (List.append_cancel_left h)]

namespace Client

theorem run_decode (r : Response) (network : Network) (journal : Journal) :
    (decode r).run network journal = ((Reply.response r).document, journal) := by
  rw [decode, Reply.document]
  cases r.isOk with
  | false => rfl
  | true =>
    cases r.body.read with
    | ok v => rfl
    | error e => cases e <;> rfl

theorem run_accept (reply : Reply) (network : Network) (journal : Journal) :
    (accept reply).run network journal = (reply.document, journal) := by
  cases reply with
  | response r => exact run_decode r network journal
  | breakdown kind message => rfl

theorem run_read_eq (r : Request) (network : Network) (journal : Journal) :
    (read r).run network journal = ((finalReply network journal.requests r).document,
      noted network journal [r]) := by
  rw [noted_singleton, read, Session.run_bind_of_ok (Session.run_send _ _ _), finalReply, attempts,
    retry]
  cases network journal.requests r with
  | response resp =>
    rw [List.append_nil]
    exact run_decode resp network _
  | breakdown kind message =>
    cases hkind : kind.isTransient with
    | false =>
      simp only [Reply.isTransient, hkind, Bool.false_eq_true, if_false, List.append_nil]
      rfl
    | true =>
      simp only [Reply.isTransient, hkind, if_true]
      rw [Session.run_bind_of_ok (Session.run_report _ _ _),
        Session.run_bind_of_ok (Session.run_send _ _ _), run_accept, List.append_assoc]
      rfl

theorem run_read (r : Request) (network : Network) (journal : Journal) :
    ∃ later, (read r).run network journal =
      ((finalReply network journal.requests r).document, later) ∧
        later.requests = journal.requests ++ attempts network journal.requests r :=
  ⟨_, run_read_eq r network journal, by rw [noted_singleton]⟩

section Endpoints

variable (c : Client) (repository : String)

def pullsRequest (commit : String) : Request :=
  c.getRequest s!"repos/{repository}/commits/{commit}/pulls" none [("Accept", .str pullsAccept)]

def pullRequest (number : String) : Request :=
  c.getRequest s!"repos/{repository}/pulls/{number}" none []

def filesRequest (number : String) (page perPage : Value) : Request :=
  c.getRequest s!"repos/{repository}/pulls/{number}/files"
    (some [("per_page", perPage), ("page", page)]) []

def treeRequest (commit : String) : Request :=
  c.getRequest s!"repos/{repository}/git/trees/{commit}" (some [("recursive", .int 1)]) []

def contentsRequest (commit : Value) (path : String) : Request :=
  let place := Text.percentEncode path
  c.getRequest s!"repos/{repository}/contents/{place}" (some [("ref", commit)]) []

def checkRunRequest (body : Value) : Request :=
  c.postRequest s!"repos/{repository}/check-runs" body

end Endpoints

end Client

end Host

namespace Session

open Host

variable {α β : Type} {network : Network}

def SendsAt (network : Network) (journal : Journal) (kind : List Request → Prop)
    (session : Session α) : Prop :=
  ∃ readings, kind readings ∧ (session.run network journal).2.requests =
    journal.requests ++ transcript network journal.requests readings

def Sends (network : Network) (kind : List Request → Prop) (session : Session α) : Prop :=
  ∀ journal, session.SendsAt network journal kind

def Silent (session : Session α) : Prop :=
  ∀ network journal, (session.run network journal).2.requests = journal.requests

theorem silent_pure (a : α) : (pure a : Session α).Silent :=
  fun _ _ => rfl

theorem silent_settle (result : Except Fault α) : (settle result).Silent := by
  intro network journal
  cases result <;> rfl

theorem silent_report (event : Event) : (report event).Silent :=
  fun _ _ => rfl

theorem silent_release (outcome : Except Stop α) : (release outcome).Silent := by
  intro network journal
  cases outcome <;> rfl

theorem Silent.bind {session : Session α} {next : α → Session β} (h : session.Silent)
    (hnext : ∀ a, (next a).Silent) : (session >>= next).Silent := by
  intro network journal
  have hfirst := h network journal
  rw [run_bind]
  cases hrun : session.run network journal with
  | mk outcome later =>
    rw [hrun] at hfirst
    cases outcome with
    | error cause => exact hfirst
    | ok a => exact (hnext a network later).trans hfirst

theorem Silent.sends {session : Session α} (h : session.Silent) :
    session.Sends network (· = []) := by
  intro journal
  exact ⟨[], rfl, by simp [h network journal, transcript]⟩

theorem sends_read (r : Request) : (Client.read r).Sends network (· = [r]) := by
  intro journal
  obtain ⟨later, hrun, hsent⟩ := Client.run_read r network journal
  exact ⟨[r], rfl, by rw [hrun, hsent, transcript_singleton]⟩

theorem SendsAt.mono {journal : Journal} {kind wider : List Request → Prop} {session : Session α}
    (h : session.SendsAt network journal kind) (hsub : ∀ readings, kind readings → wider readings) :
    session.SendsAt network journal wider := by
  obtain ⟨readings, hkind, hsent⟩ := h
  exact ⟨readings, hsub readings hkind, hsent⟩

theorem Sends.mono {kind wider : List Request → Prop} {session : Session α}
    (h : session.Sends network kind) (hsub : ∀ readings, kind readings → wider readings) :
    session.Sends network wider :=
  fun journal => (h journal).mono hsub

theorem SendsAt.kind_of_run {journal later : Journal} {kind : List Request → Prop}
    {session : Session α} {outcome : Except Stop α} {rs : List Request}
    (h : session.SendsAt network journal kind)
    (hrun : session.run network journal = (outcome, later))
    (hsent : later.requests = journal.requests ++ transcript network journal.requests rs) :
    kind rs := by
  obtain ⟨readings, hkind, hreadings⟩ := h
  rw [hrun, hsent] at hreadings
  rwa [transcript_injective (List.append_cancel_left hreadings)]

theorem SendsAt.bind {journal : Journal} {first kind : List Request → Prop} {session : Session α}
    {next : α → Session β} (h : session.SendsAt network journal first)
    (hstop : ∀ xs, first xs → kind xs)
    (hnext : ∀ a later xs, session.run network journal = (.ok a, later) → first xs →
      (next a).SendsAt network later fun ys => kind (xs ++ ys)) :
    (session >>= next).SendsAt network journal kind := by
  obtain ⟨xs, hxs, hsent⟩ := h
  rw [SendsAt, run_bind]
  cases hrun : session.run network journal with
  | mk outcome later =>
    rw [hrun] at hsent
    cases outcome with
    | error cause => exact ⟨xs, hstop xs hxs, hsent⟩
    | ok a =>
      obtain ⟨ys, hys, hmore⟩ := hnext a later xs hrun hxs
      refine ⟨xs ++ ys, hys, ?_⟩
      rw [hmore, hsent, transcript_append, List.append_assoc]

theorem SendsAt.bind_silent {journal : Journal} {kind : List Request → Prop} {session : Session α}
    {next : α → Session β} (h : session.SendsAt network journal kind)
    (hnext : ∀ a, (next a).Silent) : (session >>= next).SendsAt network journal kind := by
  refine h.bind (fun _ hxs => hxs) fun a later xs _ hxs => ((hnext a).sends later).mono ?_
  rintro _ rfl
  rwa [List.append_nil]

theorem Sends.bind_silent {kind : List Request → Prop} {session : Session α}
    {next : α → Session β} (h : session.Sends network kind) (hnext : ∀ a, (next a).Silent) :
    (session >>= next).Sends network kind :=
  fun journal => (h journal).bind_silent hnext

theorem sends_read_map (r : Request) (f : Value → α) :
    (Client.read r >>= fun v => (pure (f v) : Session α)).Sends network (· = [r]) :=
  (sends_read r).bind_silent fun v => silent_pure (f v)

theorem Silent.sends_upTo {session : Session α} (h : session.Silent) (rs : List Request) :
    session.Sends network (· <+: rs) :=
  h.sends.mono fun _ hnil => hnil ▸ List.nil_prefix

theorem Sends.bind_after {r : Request} {kind : List Request → Prop} {session : Session α}
    {next : α → Session β} (h : session.Sends network (· = [r])) (hstop : kind [r])
    (hnext : ∀ a, (next a).Sends network fun rs => kind (r :: rs)) :
    (session >>= next).Sends network kind := by
  intro journal
  refine (h journal).bind ?_ ?_
  · rintro _ rfl
    exact hstop
  · rintro a later _ _ rfl
    exact hnext a later

theorem Sends.bind_upTo {r : Request} {rs : List Request} {session : Session α}
    {next : α → Session β} (h : session.Sends network (· = [r]))
    (hnext : ∀ a, (next a).Sends network (· <+: rs)) :
    (session >>= next).Sends network (· <+: r :: rs) := by
  refine h.bind_after ?_ fun a => (hnext a).mono fun _ hys => ?_
  · exact List.cons_prefix_cons.mpr ⟨rfl, List.nil_prefix⟩
  · exact List.cons_prefix_cons.mpr ⟨rfl, hys⟩

theorem Silent.bind_sends {kind : List Request → Prop} {session : Session α}
    {next : α → Session β} (h : session.Silent) (hnext : ∀ a, (next a).Sends network kind)
    (hnil : kind []) : (session >>= next).Sends network kind := by
  intro journal
  refine (h.sends journal).bind ?_ ?_
  · rintro _ rfl
    exact hnil
  · rintro a later _ _ rfl
    exact hnext a later

theorem Sends.recover {kind : List Request → Prop} {session : Session α}
    {handler : Failure → Session α} (h : session.Sends network kind)
    (hhandler : ∀ failure, (handler failure).Silent) :
    (session.recover handler).Sends network kind := by
  intro journal
  obtain ⟨readings, hkind, hsent⟩ := h journal
  refine ⟨readings, hkind, ?_⟩
  rw [← hsent, run_recover]
  split
  · rename_i failure later hrun
    rw [hrun]
    exact hhandler failure network later
  · rfl

/-- What is held does not stop the session, so both parts are sent in full. -/
theorem Sends.hold_bind {xs ys : List Request} {session : Session α}
    {next : Except Stop α → Session β} (h : session.Sends network (· = xs))
    (hnext : ∀ outcome, (next outcome).Sends network (· = ys)) :
    (session.hold >>= next).Sends network (· = xs ++ ys) := by
  intro journal
  obtain ⟨_, rfl, hsent⟩ := h journal
  obtain ⟨_, rfl, hmore⟩ := hnext (session.run network journal).1 (session.run network journal).2
  refine ⟨_, rfl, ?_⟩
  change ((next (session.run network journal).1).run network
    (session.run network journal).2).2.requests = _
  rw [hmore, hsent, transcript_append, List.append_assoc]

end Session

end DiffReach
