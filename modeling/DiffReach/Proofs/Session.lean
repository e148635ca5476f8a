import DiffReach.Session

namespace DiffReach.Session

variable {α β : Type}

theorem run_settle_ok (a : α) (network : Host.Network) (journal : Journal) :
    (settle (.ok a)).run network journal = (.ok a, journal) :=
  rfl

theorem run_pure (a : α) (network : Host.Network) (journal : Journal) :
    (pure a : Session α).run network journal = (.ok a, journal) :=
  rfl

theorem run_release (outcome : Except Stop α) (network : Host.Network) (journal : Journal) :
    (release outcome).run network journal = (outcome, journal) := by
  cases outcome <;> rfl

theorem run_hold (session : Session α) (network : Host.Network) (journal : Journal) :
    session.hold.run network journal =
      (.ok (session.run network journal).1, (session.run network journal).2) :=
  rfl

theorem run_report (event : Event) (network : Host.Network) (journal : Journal) :
    (report event).run network journal =
      (.ok (), { journal with events := journal.events ++ [event] }) :=
  rfl

theorem run_send (request : Host.Request) (network : Host.Network) (journal : Journal) :
    (send request).run network journal = (.ok (network journal.requests request),
      { journal with requests := journal.requests ++ [request] }) :=
  rfl

theorem run_bind (session : Session α) (next : α → Session β) (network : Host.Network)
    (journal : Journal) : (session >>= next).run network journal =
      match session.run network journal with
      | (.ok a, later) => (next a).run network later
      | (.error cause, later) => (.error cause, later) :=
  rfl

theorem run_bind_of_ok {session : Session α} {next : α → Session β} {network : Host.Network}
    {journal later : Journal} {a : α} (h : session.run network journal = (.ok a, later)) :
    (session >>= next).run network journal = (next a).run network later := by
  rw [run_bind, h]

theorem run_map (session : Session α) (f : α → β) (network : Host.Network) (journal : Journal) :
    (session >>= fun a => pure (f a)).run network journal =
      ((session.run network journal).1.map f, (session.run network journal).2) := by
  rw [run_bind]
  cases session.run network journal with
  | mk outcome later => cases outcome <;> rfl

theorem run_recover (session : Session α) (handler : Host.Failure → Session α)
    (network : Host.Network) (journal : Journal) :
    (session.recover handler).run network journal =
      match session.run network journal with
      | (.error (.failure failure), later) => (handler failure).run network later
      | outcome => outcome :=
  rfl

theorem exists_run_of_run_bind {session : Session α} {next : α → Session β}
    {network : Host.Network} {journal later : Journal} {b : β}
    (h : (session >>= next).run network journal = (.ok b, later)) :
    ∃ a middle, session.run network journal = (.ok a, middle) ∧
      (next a).run network middle = (.ok b, later) := by
  rw [run_bind] at h
  split at h
  · rename_i a middle heq
    exact ⟨a, middle, heq, h⟩
  · cases h

theorem exists_of_run_bind {session : Session α} {next : α → Session β} {network : Host.Network}
    {journal : Journal} {b : β} (h : ((session >>= next).run network journal).1 = .ok b) :
    ∃ a later, session.run network journal = (.ok a, later) ∧
      ((next a).run network later).1 = .ok b := by
  rw [run_bind] at h
  split at h
  · rename_i a later heq
    exact ⟨a, later, heq, h⟩
  · cases h

theorem eq_of_run_settle {result : Except Fault α} {network : Host.Network}
    {journal later : Journal} {a : α} (h : (settle result).run network journal = (.ok a, later)) :
    result = .ok a ∧ later = journal := by
  cases result with
  | error fault => cases h
  | ok b =>
    cases h
    exact ⟨rfl, rfl⟩

theorem eq_ok_of_run_settle {result : Except Fault α} {network : Host.Network} {journal : Journal}
    {a : α} (h : ((settle result).run network journal).1 = .ok a) : result = .ok a := by
  cases result with
  | error fault => cases h
  | ok b => exact congrArg Except.ok (Except.ok.inj h)

section Seen

variable {γ δ : Type} {view : α → γ} {network : Host.Network} {journal : Journal}

def seen (view : α → γ) (outcome : Except Stop α × Journal) : Except Stop γ × Journal :=
  (outcome.1.map view, outcome.2)

theorem seen_run_settle {result other : Except Fault α} (h : result.map view = other.map view) :
    seen view ((settle result).run network journal) =
      seen view ((settle other).run network journal) := by
  cases result with
  | error fault =>
    cases other with
    | error cause => rw [Except.error.inj h]
    | ok b => cases h
  | ok a =>
    cases other with
    | error cause => cases h
    | ok b => exact congrArg (fun c => (Except.ok c, journal)) (Except.ok.inj h)

theorem seen_run_bind {first second : Session α} {next : α → Session β} {look : β → δ}
    (h : seen view (first.run network journal) = seen view (second.run network journal))
    (hnext : ∀ a b, view a = view b → ∀ later,
      seen look ((next a).run network later) = seen look ((next b).run network later)) :
    seen look ((first >>= next).run network journal) =
      seen look ((second >>= next).run network journal) := by
  rw [run_bind, run_bind]
  generalize first.run network journal = run at h ⊢
  generalize second.run network journal = run' at h ⊢
  obtain ⟨outcome, later⟩ := run
  obtain ⟨outcome', later'⟩ := run'
  obtain ⟨houtcome, rfl⟩ := Prod.mk.inj h
  cases outcome with
  | error cause =>
    cases outcome' with
    | error cause' => rw [Except.error.inj houtcome]
    | ok b => cases houtcome
  | ok a =>
    cases outcome' with
    | error cause' => cases houtcome
    | ok b => exact hnext a b (Except.ok.inj houtcome) later

end Seen

end DiffReach.Session
