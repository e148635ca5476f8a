import DiffReach.Event

namespace DiffReach

structure Journal where
  requests : List Host.Request
  events : List Event

inductive Stop where
  | failure (failure : Host.Failure)
  | fault (fault : Fault)

def Session (α : Type) : Type :=
  Host.Network → Journal → Except Stop α × Journal

namespace Session

variable {α β : Type}

def run (session : Session α) (network : Host.Network) (journal : Journal) :
    Except Stop α × Journal :=
  session network journal

def done (a : α) : Session α :=
  fun _ journal => (.ok a, journal)

def andThen (session : Session α) (next : α → Session β) : Session β :=
  fun network journal =>
    match session network journal with
    | (.ok a, journal) => next a network journal
    | (.error stop, journal) => (.error stop, journal)

instance : Monad Session where
  pure := done
  bind := andThen

def stop (cause : Stop) : Session α :=
  fun _ journal => (.error cause, journal)

def fail (failure : Host.Failure) : Session α :=
  stop (.failure failure)

def settle : Except Fault α → Session α
  | .ok a => done a
  | .error fault => stop (.fault fault)

def report (event : Event) : Session Unit :=
  fun _ journal => (.ok (), { journal with events := journal.events ++ [event] })

def send (request : Host.Request) : Session Host.Reply :=
  fun network journal =>
    (.ok (network journal.requests request),
      { journal with requests := journal.requests ++ [request] })

/-- Goes on with the handler after a failed request; faults pass. -/
def recover (session : Session α) (handler : Host.Failure → Session α) : Session α :=
  fun network journal =>
    match session network journal with
    | (.error (.failure failure), journal) => handler failure network journal
    | outcome => outcome

/-- The result, or the fault that ended the session, as a value to be looked at later. -/
def hold (session : Session α) : Session (Except Stop α) :=
  fun network journal =>
    let (outcome, journal) := session network journal
    (.ok outcome, journal)

def release : Except Stop α → Session α
  | .ok a => done a
  | .error cause => stop cause

end Session

end DiffReach
