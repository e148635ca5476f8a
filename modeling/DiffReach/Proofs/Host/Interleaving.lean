import DiffReach.Proofs.Host.Reading
import Mathlib.Algebra.BigOperators.Group.List.Basic
import Mathlib.Algebra.Order.Group.Multiset

namespace DiffReach

namespace Host

/-- Readings that overlap in time. After `start` they send `sent` so far: of the readings `rs` those
in `unsent` have not begun, and those in `again` have had a transient breakdown and are to be sent
once more. -/
inductive Overlaps (network : Network) (start rs : List Request) :
    (unsent again : Multiset Request) → (sent : List Request) → Prop
  | start : Overlaps network start rs rs 0 []
  | final {unsent again : Multiset Request} {sent : List Request} {r : Request}
      (h : Overlaps network start rs (r ::ₘ unsent) again sent)
      (hreply : (network (start ++ sent) r).isTransient = false) :
      Overlaps network start rs unsent again (sent ++ [r])
  | broken {unsent again : Multiset Request} {sent : List Request} {r : Request}
      (h : Overlaps network start rs (r ::ₘ unsent) again sent)
      (hreply : (network (start ++ sent) r).isTransient = true) :
      Overlaps network start rs unsent (r ::ₘ again) (sent ++ [r])
  | second {unsent again : Multiset Request} {sent : List Request} {r : Request}
      (h : Overlaps network start rs unsent (r ::ₘ again) sent) :
      Overlaps network start rs unsent again (sent ++ [r])

/-- A network that repeats replies it gave before, and then goes on after what was sent since. -/
def resuming (network : Network) (sent : List Request) (replies : List Reply) : Network :=
  fun earlier r =>
    match replies[earlier.length]? with
    | some reply => reply
    | none => network (sent ++ earlier.drop replies.length) r

namespace Overlaps

variable {network : Network} {start rs sent : List Request} {unsent again : Multiset Request}
  {r : Request}

theorem reading (h : Overlaps network start rs (r ::ₘ unsent) again sent) :
    Overlaps network start rs unsent again (sent ++ attempts network (start ++ sent) r) := by
  rw [attempts]
  cases hreply : (network (start ++ sent) r).isTransient with
  | false => exact h.final hreply
  | true =>
    have hpair := (h.broken hreply).second
    rwa [List.append_assoc] at hpair

theorem inTurn {more : List Request} (h : Overlaps network start rs more again sent) :
    Overlaps network start rs 0 again (sent ++ transcript network (start ++ sent) more) := by
  induction more generalizing sent with
  | nil => rwa [transcript, List.append_nil]
  | cons r more ih =>
    rw [← Multiset.cons_coe] at h
    have hrest := ih h.reading
    rwa [transcript, ← List.append_assoc, List.append_assoc start]

theorem of_transcript (network : Network) (start rs : List Request) :
    Overlaps network start rs 0 0 (transcript network start rs) := by
  have h : Overlaps network start rs rs 0 [] := .start
  have hall := h.inTurn
  rwa [List.append_nil, List.nil_append] at hall

theorem weight (h : Overlaps network start rs unsent again sent) :
    sent.length + again.card + 2 * unsent.card ≤ 2 * rs.length := by
  induction h with
  | start => simp
  | final _ _ ih | broken _ _ ih | second _ ih =>
    simp only [Multiset.card_cons, List.length_append, List.length_singleton] at ih ⊢
    omega

theorem length_le (h : Overlaps network start rs 0 0 sent) : sent.length ≤ 2 * rs.length := by
  have hweight := h.weight
  simpa using hweight

theorem subset (h : Overlaps network start rs unsent again sent) :
    (∀ r ∈ unsent, r ∈ rs) ∧ (∀ r ∈ again, r ∈ rs) ∧ ∀ r ∈ sent, r ∈ rs := by
  induction h with
  | start => simp
  | final _ _ ih | broken _ _ ih | second _ ih =>
    simp only [Multiset.mem_cons, forall_eq_or_imp, List.mem_append, List.mem_singleton] at ih ⊢
    grind

end Overlaps

inductive Order where
  | inTurn
  | mixed (schedule : List Nat)

structure Order.Arranges (order : Order) (network : Network) (earlier rs sent : List Request) :
    Prop where
  overlaps : Overlaps network earlier rs 0 0 sent
  inTurn : order = .inTurn → sent = transcript network earlier rs

theorem Order.arranges_transcript (order : Order) (network : Network) (earlier rs : List Request) :
    order.Arranges network earlier rs (transcript network earlier rs) :=
  ⟨Overlaps.of_transcript network earlier rs, fun _ => rfl⟩

end Host

namespace Session

open Host

variable {α : Type}

structure Thread (α : Type) where
  session : Session α
  replies : List Reply

/-- The thread run to its end from where it is, with its requests from the start on. -/
def Thread.resume (t : Thread α) (network : Network) (sent : List Request) :
    Except Stop α × Journal :=
  t.session.run (resuming network sent t.replies) ⟨[], []⟩

/-- What is left for the thread to send if no other sends anything in between. -/
def Thread.outstanding (t : Thread α) (network : Network) (sent : List Request) : List Request :=
  (t.resume network sent).2.requests.drop t.replies.length

structure Pool (α : Type) where
  sent : List Request
  threads : List (Thread α)

def Pool.start (sent : List Request) (sessions : List (Session α)) : Pool α :=
  ⟨sent, sessions.map (⟨·, []⟩)⟩

def Pool.step (network : Network) (pool : Pool α) (i : Nat) : Pool α :=
  match pool.threads[i]? with
  | none => pool
  | some t =>
      match (t.outstanding network pool.sent).head? with
      | none => pool
      | some r =>
          ⟨pool.sent ++ [r], pool.threads.set i ⟨t.session, t.replies ++ [network pool.sent r]⟩⟩

def finish (network : Network) : List Request → List (Thread α) → List (Except Stop α) × Journal
  | sent, [] => ([], ⟨sent, []⟩)
  | sent, t :: threads =>
      let (outcome, journal) := t.resume network sent
      let (outcomes, later) := finish network (sent ++ t.outstanding network sent) threads
      (outcome :: outcomes, { later with events := journal.events ++ later.events })

/-- Sessions side by side: as long as the schedule lasts it says whose turn it is, and then they end
one after another. -/
def interleave (schedule : List Nat) (sessions : List (Session α)) :
    Session (List (Except Stop α)) := fun network journal =>
  let pool := schedule.foldl (Pool.step network) (Pool.start journal.requests sessions)
  let (outcomes, later) := finish network pool.sent pool.threads
  (.ok outcomes, { later with events := journal.events ++ later.events })

theorem exists_run_interleave (schedule : List Nat) (sessions : List (Session α))
    (network : Network) (journal : Journal) :
    let pool := schedule.foldl (Pool.step network) (Pool.start journal.requests sessions)
    ∃ later, (interleave schedule sessions).run network journal =
      (.ok (finish network pool.sent pool.threads).1, later) ∧
      later.requests = (finish network pool.sent pool.threads).2.requests :=
  ⟨_, rfl, rfl⟩

structure Reader (α : Type) where
  thread : Thread α
  request : Option Request
  reads : ∀ network, thread.session.Sends network (· = request.toList)

namespace Reader

variable {network : Network} {start rs sent : List Request}

def unsent (x : Reader α) : Multiset Request :=
  if x.thread.replies = [] then x.request.toList else 0

def again (x : Reader α) : Multiset Request :=
  if x.thread.replies.map Reply.isTransient = [true] then x.request.toList else 0

def answered (x : Reader α) (reply : Reply) : Reader α :=
  { x with thread := ⟨x.thread.session, x.thread.replies ++ [reply]⟩ }

theorem outstanding_eq (x : Reader α) (network : Network) (sent : List Request) :
    x.thread.outstanding network sent =
      (transcript (resuming network sent x.thread.replies) [] x.request.toList).drop
        x.thread.replies.length := by
  obtain ⟨readings, rfl, hsent⟩ := x.reads (resuming network sent x.thread.replies) ⟨[], []⟩
  rw [Thread.outstanding, Thread.resume, hsent, List.nil_append]

/-- Where a reader stands: it has nothing left to send, its whole reading, or its second attempt. -/
inductive Stands (network : Network) (sent : List Request) (x : Reader α) : Prop
  | done (hunsent : x.unsent = 0) (hagain : x.again = 0)
      (hleft : x.thread.outstanding network sent = [])
  | unsent (r : Request) (hunsent : x.unsent = {r}) (hagain : x.again = 0)
      (hleft : x.thread.outstanding network sent = attempts network sent r)
      (hnext : ∀ reply, (x.answered reply).unsent = 0 ∧
        (x.answered reply).again = if reply.isTransient then {r} else 0)
  | again (r : Request) (hunsent : x.unsent = 0) (hagain : x.again = {r})
      (hleft : x.thread.outstanding network sent = [r])
      (hnext : ∀ reply, (x.answered reply).unsent = 0 ∧ (x.answered reply).again = 0)

theorem stands (x : Reader α) (network : Network) (sent : List Request) :
    x.Stands network sent := by
  have hleft := x.outstanding_eq network sent
  cases hrequest : x.request with
  | none =>
    rw [hrequest] at hleft
    refine .done ?_ ?_ (hleft.trans List.drop_nil)
    · rw [unsent, hrequest]
      exact ite_self _
    · rw [again, hrequest]
      exact ite_self _
  | some r =>
    rw [hrequest, Option.toList_some, transcript_singleton, attempts] at hleft
    cases hreplies : x.thread.replies with
    | nil =>
      rw [hreplies] at hleft
      refine .unsent r ?_ ?_ ?_ fun reply => ?_
      · simp [unsent, hreplies, hrequest]
      · simp [again, hreplies]
      · simpa [attempts, resuming] using hleft
      · simp [unsent, again, answered, hreplies, hrequest]
    | cons reply replies =>
      have hfirst : resuming network sent (reply :: replies) [] r = reply := rfl
      rw [hreplies, hfirst] at hleft
      by_cases htwo : reply.isTransient = true ∧ replies = []
      · obtain ⟨htransient, rfl⟩ := htwo
        refine .again r ?_ ?_ ?_ fun reply => ?_
        · simp [unsent, hreplies]
        · simp [again, hreplies, htransient, hrequest]
        · simpa [htransient] using hleft
        · simp [unsent, again, answered, hreplies]
      · refine .done ?_ ?_ ?_
        · simp [unsent, hreplies]
        · rw [again, hreplies, if_neg]
          simpa using htwo
        · rw [hleft]
          cases replies with
          | nil => simp_all
          | cons second replies => cases reply.isTransient <;> simp

theorem overlaps_next {x : Reader α} {others broken : Multiset Request} {r : Request}
    (h : Overlaps network start rs (x.unsent + others) (x.again + broken) sent)
    (hr : (x.thread.outstanding network (start ++ sent)).head? = some r) :
    let y := x.answered (network (start ++ sent) r)
    Overlaps network start rs (y.unsent + others) (y.again + broken) (sent ++ [r]) := by
  cases x.stands network (start ++ sent) with
  | done hunsent hagain hleft =>
    rw [hleft] at hr
    cases hr
  | unsent s hunsent hagain hleft hnext =>
    obtain ⟨more, hmore⟩ := exists_attempts_eq_cons network (start ++ sent) s
    rw [hleft, hmore] at hr
    obtain rfl := Option.some.inj hr
    rw [hunsent, hagain, zero_add, Multiset.singleton_add] at h
    obtain ⟨hunsent', hagain'⟩ := hnext (network (start ++ sent) s)
    simp only [hunsent', hagain', zero_add]
    cases hreply : (network (start ++ sent) s).isTransient with
    | false =>
      rw [if_neg Bool.false_ne_true, zero_add]
      exact h.final hreply
    | true =>
      rw [if_pos rfl, Multiset.singleton_add]
      exact h.broken hreply
  | again s hunsent hagain hleft hnext =>
    rw [hleft] at hr
    obtain rfl := Option.some.inj hr
    rw [hunsent, hagain, zero_add, Multiset.singleton_add] at h
    obtain ⟨hunsent', hagain'⟩ := hnext (network (start ++ sent) s)
    simp only [hunsent', hagain', zero_add]
    exact h.second

theorem overlaps_resume {x : Reader α} {others broken : Multiset Request}
    (h : Overlaps network start rs (x.unsent + others) (x.again + broken) sent) :
    Overlaps network start rs others broken
      (sent ++ x.thread.outstanding network (start ++ sent)) := by
  cases x.stands network (start ++ sent) with
  | done hunsent hagain hleft =>
    rw [hunsent, hagain, zero_add, zero_add] at h
    rwa [hleft, List.append_nil]
  | unsent r hunsent hagain hleft hnext =>
    rw [hunsent, hagain, zero_add, Multiset.singleton_add] at h
    rw [hleft]
    exact h.reading
  | again r hunsent hagain hleft hnext =>
    rw [hunsent, hagain, zero_add, Multiset.singleton_add] at h
    rw [hleft]
    exact h.second

theorem overlaps_finish {readers : List (Reader α)}
    (h : Overlaps network start rs (readers.map Reader.unsent).sum (readers.map Reader.again).sum
      sent) :
    ∃ all, (finish network (start ++ sent) (readers.map Reader.thread)).2.requests = start ++ all ∧
      Overlaps network start rs 0 0 all := by
  induction readers generalizing sent with
  | nil => exact ⟨sent, rfl, h⟩
  | cons x readers ih =>
    obtain ⟨all, hall, hdone⟩ := ih (overlaps_resume h)
    refine ⟨all, ?_, hdone⟩
    rw [← hall, List.map_cons, finish, List.append_assoc]

end Reader

section Readers

variable {network : Network} {start rs : List Request}

def Pool.Reads (network : Network) (start rs : List Request) (pool : Pool α) : Prop :=
  ∃ (readers : List (Reader α)) (sent : List Request),
    pool = ⟨start ++ sent, readers.map Reader.thread⟩ ∧
    Overlaps network start rs (readers.map Reader.unsent).sum (readers.map Reader.again).sum sent

theorem Pool.Reads.step {pool : Pool α} (h : pool.Reads network start rs) (i : Nat) :
    (pool.step network i).Reads network start rs := by
  have hstay := h
  obtain ⟨readers, sent, rfl, hreads⟩ := h
  rw [Pool.step]
  split
  · exact hstay
  rename_i t ht
  split
  · exact hstay
  rename_i r hr
  rw [List.getElem?_map, Option.map_eq_some_iff] at ht
  obtain ⟨x, hx, rfl⟩ := ht
  obtain ⟨hi, hget⟩ := List.getElem?_eq_some_iff.mp hx
  let reply := network (start ++ sent) r
  obtain ⟨front, back, hreaders, -, hset⟩ :
      ∃ front back, readers = front ++ readers[i] :: back ∧ front.length = i ∧
        readers.set i (x.answered reply) = front ++ x.answered reply :: back :=
    List.exists_of_set hi
  rw [hget] at hreaders
  refine ⟨readers.set i (x.answered reply), sent ++ [r], ?_, ?_⟩
  · rw [List.map_set, List.append_assoc]
    rfl
  rw [hset]
  rw [hreaders] at hreads
  simp only [List.map_append, List.map_cons, List.sum_append, List.sum_cons] at hreads ⊢
  rw [add_left_comm, add_left_comm (front.map Reader.again).sum] at hreads ⊢
  exact Reader.overlaps_next hreads hr

theorem Pool.Reads.run {pool : Pool α} (h : pool.Reads network start rs) (schedule : List Nat) :
    (schedule.foldl (Pool.step network) pool).Reads network start rs := by
  induction schedule generalizing pool with
  | nil => exact h
  | cons i schedule ih => exact ih (h.step i)

variable {ι : Type} {session : ι → Session α} {request : ι → Option Request}

theorem Pool.reads_start (h : ∀ network item, (session item).Sends network
    (· = (request item).toList)) (network : Network) (start : List Request) (items : List ι) :
    (Pool.start start (items.map session)).Reads network start (items.filterMap request) := by
  let reader (item : ι) : Reader α :=
    ⟨⟨session item, []⟩, request item, fun network => h network item⟩
  have hunsent : ((items.map reader).map Reader.unsent).sum = ↑(items.filterMap request) := by
    induction items with
    | nil => rfl
    | cons item items ih =>
      rw [List.map_cons, List.map_cons, List.sum_cons, ih, Reader.unsent, if_pos rfl]
      cases hrequest : request item <;> simp [reader, hrequest]
  have hagain : ((items.map reader).map Reader.again).sum = 0 := by
    refine List.sum_eq_zero fun left hleft => ?_
    rw [List.map_map] at hleft
    obtain ⟨item, -, rfl⟩ := List.mem_map.mp hleft
    rfl
  refine ⟨items.map reader, [], ?_, ?_⟩
  · simp [Pool.start, reader, Function.comp_def]
  · rw [hunsent, hagain]
    exact .start

theorem overlaps_interleave (h : ∀ network item, (session item).Sends network
    (· = (request item).toList)) (schedule : List Nat) (items : List ι) (network : Network)
    (journal : Journal) :
    ∃ sent, ((interleave schedule (items.map session)).run network journal).2.requests =
        journal.requests ++ sent ∧
      Overlaps network journal.requests (items.filterMap request) 0 0 sent := by
  obtain ⟨later, hrun, hlater⟩ :=
    exists_run_interleave schedule (items.map session) network journal
  obtain ⟨readers, sent, hpool, hreads⟩ :=
    (Pool.reads_start h network journal.requests items).run schedule
  obtain ⟨all, hall, hdone⟩ := Reader.overlaps_finish hreads
  refine ⟨all, ?_, hdone⟩
  rw [hrun, hlater, hpool, ← hall]

end Readers

section Order

variable {β : Type} {order : Order} {network : Network} {journal : Journal}
  {kind : List Request → List Request → Prop}

/-- What a session sends from a journal on are readings one after another and then others in an
order, both of a kind. -/
def SendsIn (order : Order) (network : Network) (journal : Journal)
    (kind : List Request → List Request → Prop) (session : Session α) : Prop :=
  ∃ rs files sent, kind rs files ∧
    order.Arranges network (journal.requests ++ transcript network journal.requests rs) files
      sent ∧
    (session.run network journal).2.requests =
      journal.requests ++ transcript network journal.requests rs ++ sent

theorem SendsAt.sendsIn {session : Session α}
    (h : session.SendsAt network journal fun rs => kind rs []) (order : Order) :
    session.SendsIn order network journal kind := by
  obtain ⟨rs, hrs, hsent⟩ := h
  refine ⟨rs, [], [], hrs, order.arranges_transcript network _ [], ?_⟩
  rw [hsent, List.append_nil]

theorem SendsIn.mono {wider : List Request → List Request → Prop} {session : Session α}
    (h : session.SendsIn order network journal kind)
    (hsub : ∀ rs files, kind rs files → wider rs files) :
    session.SendsIn order network journal wider := by
  obtain ⟨rs, files, sent, hkind, hsent⟩ := h
  exact ⟨rs, files, sent, hsub rs files hkind, hsent⟩

theorem SendsIn.bind_silent {session : Session α} {next : α → Session β}
    (h : session.SendsIn order network journal kind) (hnext : ∀ a, (next a).Silent) :
    (session >>= next).SendsIn order network journal kind := by
  obtain ⟨rs, files, sent, hkind, harranged, hsent⟩ := h
  refine ⟨rs, files, sent, hkind, harranged, ?_⟩
  rw [← hsent, run_bind]
  cases session.run network journal with
  | mk outcome later =>
    cases outcome with
    | error cause => rfl
    | ok a => exact hnext a network later

theorem SendsAt.bind_sendsIn {first : List Request → Prop} {session : Session α}
    {next : α → Session β} (h : session.SendsAt network journal first)
    (hstop : ∀ rs, first rs → kind rs [])
    (hnext : ∀ a later rs, session.run network journal = (.ok a, later) → first rs →
      (next a).SendsIn order network later fun more files => kind (rs ++ more) files) :
    (session >>= next).SendsIn order network journal kind := by
  obtain ⟨rs, hrs, hsent⟩ := h
  rw [SendsIn, run_bind]
  cases hrun : session.run network journal with
  | mk outcome later =>
    rw [hrun] at hsent
    cases outcome with
    | error cause =>
      refine ⟨rs, [], [], hstop rs hrs, order.arranges_transcript network _ [], ?_⟩
      rw [hsent, List.append_nil]
    | ok a =>
      obtain ⟨more, files, sent, hkind, harranged, hmore⟩ := hnext a later rs hrun hrs
      have hall : later.requests ++ transcript network later.requests more =
          journal.requests ++ transcript network journal.requests (rs ++ more) := by
        rw [hsent, transcript_append, List.append_assoc]
      rw [hall] at harranged hmore
      exact ⟨rs ++ more, files, sent, hkind, harranged, hmore⟩

end Order

end Session

end DiffReach
