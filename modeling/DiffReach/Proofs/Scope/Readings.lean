import DiffReach.Proofs.Host.Reading
import DiffReach.Scope.Resolution

namespace DiffReach.Scope

open Host

variable {network : Network}

def pageReadings (client : Client) (perPage : Value) (repository : String) (pull : Int) :
    Nat → Int → List Request
  | 0, _ => []
  | left + 1, page =>
      client.filesRequest repository (toString pull) (.int page) perPage ::
        pageReadings client perPage repository pull left (page + 1)

def readings (client : Client) (limits : Limits) (repository commit : String) (pull : Int) :
    List Request :=
  client.pullsRequest repository commit :: client.pullRequest repository (toString pull) ::
    pageReadings client limits.pullFilesPerPage repository pull
      (limits.maxPullFilePages.whole?.getD 0).toNat 1

theorem sends_listPages (client : Client) (perPage : Value) (repository : String)
    (pull pages : Int) (left : Nat) (page : Int) :
    (listPages client perPage repository pull pages left page).Sends network
      (· <+: pageReadings client perPage repository pull left page) := by
  induction left generalizing page with
  | zero =>
    refine Session.Silent.sends_upTo ?_ _
    exact (Session.silent_report _).bind fun _ => Session.silent_pure _
  | succ left ih =>
    refine (Session.sends_read_map _ Client.items).bind_upTo fun batch => ?_
    split
    · exact (Session.silent_pure _).sends_upTo _
    · refine (Session.silent_settle _).bind_sends (fun isLast => ?_) List.nil_prefix
      split
      · exact (Session.silent_pure _).sends_upTo _
      · exact (ih (page + 1)).bind_silent fun _ => Session.silent_pure _

theorem sends_listFiles (client : Client) (limits : Limits) (repository : String) (pull : Int) :
    (listFiles client limits repository pull).Sends network
      (· <+: pageReadings client limits.pullFilesPerPage repository pull
        (limits.maxPullFilePages.whole?.getD 0).toNat 1) := by
  rw [listFiles]
  cases limits.maxPullFilePages.whole? with
  | none => exact (Session.silent_settle _).sends_upTo _
  | some pages => exact sends_listPages client limits.pullFilesPerPage repository pull pages _ 1

theorem sends_lookUp (client : Client) (limits : Limits) (repository commit : String) :
    (lookUp client limits repository commit).Sends network
      fun rs => ∃ pull, rs <+: readings client limits repository commit pull := by
  have hpulls (pull : Int) {rs : List Request}
      (h : rs <+: (readings client limits repository commit pull).tail) :
      ∃ pull, client.pullsRequest repository commit :: rs <+:
        readings client limits repository commit pull :=
    ⟨pull, List.cons_prefix_cons.mpr ⟨rfl, h⟩⟩
  refine (Session.sends_read_map _ Client.items).bind_after (hpulls 0 List.nil_prefix) ?_
  intro pulls
  refine (Session.silent_settle _).bind_sends (fun pull => ?_) (hpulls 0 List.nil_prefix)
  refine Session.Sends.mono ?_ fun rs => hpulls pull
  split
  · refine Session.Silent.sends_upTo ?_ _
    exact (Session.silent_report _).bind fun _ => Session.silent_pure _
  · refine (Session.sends_read_map _ Client.fields).bind_upTo fun detail => ?_
    refine (Session.silent_settle _).bind_sends (fun scope => ?_) List.nil_prefix
    refine (sends_listFiles client limits repository pull).bind_silent fun entries => ?_
    exact (Session.silent_settle _).bind fun scope => Session.silent_pure _

def Asks (client : Client) (limits : Limits) (url commit : Option String) (rs : List Request) :
    Prop :=
  rs = [] ∨ ∃ repository pull, Repository.path? (url.getD "") = some repository ∧
    rs <+: readings client limits repository (commit.getD "") pull

theorem isPost_of_mem_pageReadings {client : Client} {perPage : Value} {repository : String}
    {pull : Int} {left : Nat} {page : Int} {r : Request}
    (h : r ∈ pageReadings client perPage repository pull left page) : r.isPost = false := by
  induction left generalizing page with
  | zero => cases h
  | succ left ih =>
    rcases List.mem_cons.mp h with rfl | h
    · rfl
    · exact ih h

theorem Asks.isPost_eq_false {client : Client} {limits : Limits} {url commit : Option String}
    {rs : List Request} (h : Asks client limits url commit rs) {r : Request} (hr : r ∈ rs) :
    r.isPost = false := by
  rcases h with rfl | ⟨repository, pull, -, hrs⟩
  · cases hr
  · rcases List.mem_cons.mp (hrs.subset hr) with rfl | hr
    · rfl
    · rcases List.mem_cons.mp hr with rfl | hr
      · rfl
      · exact isPost_of_mem_pageReadings hr

theorem sends_resolve (client : Client) (limits : Limits) (url commit : Option String) :
    (resolve client limits url commit).Sends network (Asks client limits url commit) := by
  have hnothing {session : Session (Option Scope)} (h : session.Silent) :
      session.Sends network (Asks client limits url commit) :=
    h.sends.mono fun _ => Or.inl
  rw [resolve]
  split
  · exact hnothing ((Session.silent_report _).bind fun _ => Session.silent_pure _)
  · dsimp only
    split
    · exact hnothing (Session.silent_pure _)
    · split
      · exact hnothing ((Session.silent_report _).bind fun _ => Session.silent_pure _)
      · rename_i repository hpath
        refine Session.Sends.mono (Session.Sends.recover
          (sends_lookUp client limits repository (commit.getD "")) fun failure => ?_) ?_
        · exact (Session.silent_report _).bind fun _ => Session.silent_pure none
        · rintro rs ⟨pull, hrs⟩
          exact Or.inr ⟨repository, pull, hpath, hrs⟩

end DiffReach.Scope
