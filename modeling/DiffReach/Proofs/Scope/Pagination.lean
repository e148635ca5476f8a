import DiffReach.Proofs.Scope.WholeOrNone

namespace DiffReach.Scope

open Host

/-- The files on a page of a listing; the first page is page zero. -/
def pageOf (entries : List Value) (perPage page : Nat) : List Value :=
  (entries.drop (page * perPage)).take perPage

def Paged (client : Client) (network : Network) (repository : String) (pull : Int)
    (perPage : Nat) (entries : List Value) : Prop :=
  ∀ earlier (page : Nat),
    (finalReply network earlier (client.filesRequest repository (toString pull) (.int (page + 1))
      (.int perPage))).document = .ok (.list (pageOf entries perPage page))

def pageRequests (client : Client) (repository : String) (pull : Int) (perPage n : Nat) :
    List Request :=
  (List.range n).map fun (page : Nat) =>
    client.filesRequest repository (toString pull) (.int (page + 1)) (.int perPage)

def pagesAsked (perPage cap total : Nat) : Nat :=
  min cap (total / perPage + 1)

def truncation (pull pages : Int) (perPage cap total : Nat) : List Event :=
  if cap * perPage ≤ total then [.pullFilesTruncated pull pages] else []

def told (journal : Journal) (events : List Event) : Journal :=
  { journal with events := journal.events ++ events }

section Count

variable {perPage total : Nat}

theorem pagesAsked_of_lt (h : total < perPage) (cap : Nat) :
    pagesAsked perPage (cap + 1) total = 1 := by
  rw [pagesAsked, Nat.div_eq_of_lt h]
  omega

theorem pagesAsked_of_le (hp : 0 < perPage) (h : perPage ≤ total) (cap : Nat) :
    pagesAsked perPage (cap + 1) total = pagesAsked perPage cap (total - perPage) + 1 := by
  rw [pagesAsked, pagesAsked, Nat.div_eq_sub_div hp h, Nat.add_min_add_right]

theorem mem_truncation_iff {pull pages : Int} {cap : Nat} :
    .pullFilesTruncated pull pages ∈ truncation pull pages perPage cap total ↔
      cap * perPage ≤ total := by
  rw [truncation]
  split
  · rename_i hcap
    simp [hcap]
  · rename_i hcap
    simp [hcap]

theorem truncation_of_lt (pull pages : Int) (h : total < perPage) (cap : Nat) :
    truncation pull pages perPage (cap + 1) total = [] := by
  have hcap : ¬ (cap + 1) * perPage ≤ total := by
    rw [Nat.succ_mul]
    omega
  rw [truncation, if_neg hcap]

theorem truncation_of_le (pull pages : Int) (h : perPage ≤ total) (cap : Nat) :
    truncation pull pages perPage (cap + 1) total =
      truncation pull pages perPage cap (total - perPage) := by
  have hcap : (cap + 1) * perPage ≤ total ↔ cap * perPage ≤ total - perPage := by
    rw [Nat.succ_mul]
    omega
  rw [truncation, truncation]
  simp only [hcap]

end Count

section Listing

variable {client : Client} {network : Network} {repository : String} {pull : Int} {perPage : Nat}
  {entries : List Value}

theorem told_nil (journal : Journal) : told journal [] = journal := by
  rw [told, List.append_nil]

theorem run_pullFiles (h : Paged client network repository pull perPage entries) (page : Nat)
    (journal : Journal) :
    (client.pullFiles repository (toString pull) (.int (page + 1)) (.int perPage)).run network
      journal = (.ok (pageOf entries perPage page),
        noted network journal [client.filesRequest repository (toString pull) (.int (page + 1))
          (.int perPage)]) := by
  have hread := Client.run_read_eq (client.filesRequest repository (toString pull)
    (.int (page + 1)) (.int perPage)) network journal
  rw [h journal.requests page] at hread
  exact Session.run_bind_of_ok hread

theorem allows_page (page : Nat) : (Value.int perPage).allows (pageOf entries perPage page).length =
    .ok (decide ((pageOf entries perPage page).length < perPage)) := by
  change Except.ok (decide (((pageOf entries perPage page).length : Int) < perPage)) = _
  simp only [Nat.cast_lt]

theorem run_listPages_short (h : Paged client network repository pull perPage entries)
    (pages : Int) (left : Nat) {page : Nat}
    (hlt : (entries.drop (page * perPage)).length < perPage) (journal : Journal) :
    (listPages client (.int perPage) repository pull pages (left + 1) (page + 1)).run network
      journal = (.ok (entries.drop (page * perPage)),
        noted network journal [client.filesRequest repository (toString pull) (.int (page + 1))
          (.int perPage)]) := by
  have hpage : pageOf entries perPage page = entries.drop (page * perPage) :=
    List.take_of_length_le (Nat.le_of_lt hlt)
  rw [listPages, Session.run_bind_of_ok (run_pullFiles h page journal), allows_page, hpage]
  split
  · rename_i hempty
    rw [List.isEmpty_iff.mp hempty]
    rfl
  · rw [Session.run_bind_of_ok (Session.run_settle_ok _ _ _), if_pos (decide_eq_true hlt)]
    rfl

theorem run_listPages_full (h : Paged client network repository pull perPage entries)
    (hp : 0 < perPage) (pages : Int) (left : Nat) {page : Nat}
    (hle : perPage ≤ (entries.drop (page * perPage)).length) (journal : Journal) :
    (listPages client (.int perPage) repository pull pages (left + 1) (page + 1)).run network
      journal = (listPages client (.int perPage) repository pull pages left (page + 1 + 1) >>=
        fun rest => (pure (pageOf entries perPage page ++ rest) : Session (List Value))).run network
          (noted network journal [client.filesRequest repository (toString pull) (.int (page + 1))
            (.int perPage)]) := by
  have hlength : (pageOf entries perPage page).length = perPage := by
    rw [pageOf, List.length_take]
    omega
  have hempty : ¬ (pageOf entries perPage page).isEmpty = true := by
    rw [List.isEmpty_iff_length_eq_zero]
    omega
  rw [listPages, Session.run_bind_of_ok (run_pullFiles h page journal), if_neg hempty, allows_page,
    hlength, Session.run_bind_of_ok (Session.run_settle_ok _ _ _), if_neg (by simp)]

theorem run_listPages (h : Paged client network repository pull perPage entries)
    (hp : 0 < perPage) (pages : Int) (left : Nat) {page total : Nat}
    (ht : (entries.drop (page * perPage)).length = total) (journal : Journal) :
    (listPages client (.int perPage) repository pull pages left (page + 1)).run network journal =
      (.ok ((entries.drop (page * perPage)).take (left * perPage)),
        told (noted network journal (pageReadings client (.int perPage) repository pull
          (pagesAsked perPage left total) (page + 1)))
            (truncation pull pages perPage left total)) := by
  induction left generalizing page total journal with
  | zero =>
    rw [pagesAsked, truncation, Nat.zero_mul, Nat.zero_min, if_pos (Nat.zero_le _), List.take_zero,
      pageReadings, noted_nil]
    rfl
  | succ left ih =>
    by_cases hlt : total < perPage
    · have hall : (entries.drop (page * perPage)).length ≤ (left + 1) * perPage := by
        rw [ht, Nat.succ_mul]
        omega
      rw [run_listPages_short h pages left (ht ▸ hlt), pagesAsked_of_lt hlt,
        truncation_of_lt _ _ hlt, told_nil, List.take_of_length_le hall]
      rfl
    · have hle : perPage ≤ total := Nat.le_of_not_lt hlt
      have hrest : (entries.drop ((page + 1) * perPage)).length = total - perPage := by
        rw [← ht, List.length_drop, List.length_drop, Nat.succ_mul]
        omega
      have hsplit : (entries.drop (page * perPage)).take ((left + 1) * perPage) =
          pageOf entries perPage page ++
            (entries.drop ((page + 1) * perPage)).take (left * perPage) := by
        rw [pageOf, Nat.succ_mul, Nat.succ_mul, Nat.add_comm, List.take_add, List.drop_drop]
      have hlater := ih hrest (noted network journal [client.filesRequest repository
        (toString pull) (.int (page + 1)) (.int perPage)])
      rw [Nat.cast_succ, ← noted_cons] at hlater
      rw [run_listPages_full h hp pages left (ht ▸ hle), Session.run_map, hlater, hsplit,
        pagesAsked_of_le hp hle, truncation_of_le _ _ hle]
      rfl

theorem pageReadings_eq_map (n : Nat) (first : Int) :
    pageReadings client (.int perPage) repository pull n first = (List.range n).map fun (k : Nat) =>
      client.filesRequest repository (toString pull) (.int (k + first)) (.int perPage) := by
  induction n generalizing first with
  | zero => rfl
  | succ n ih =>
    rw [pageReadings, ih, List.range_succ_eq_map, List.map_cons, List.map_map, Nat.cast_zero,
      Int.zero_add]
    refine congrArg _ (List.map_congr_left fun k _ => ?_)
    rw [Function.comp_apply, Nat.cast_succ, Int.add_assoc, Int.add_comm 1]

theorem run_listFiles_paged {limits : Limits} {pages : Nat}
    (h : Paged client network repository pull perPage entries) (hp : 0 < perPage)
    (hsize : limits.pullFilesPerPage = .int perPage)
    (hcap : limits.maxPullFilePages = .int pages) (journal : Journal) :
    (listFiles client limits repository pull).run network journal =
      (.ok (entries.take (pages * perPage)), told (noted network journal
        (pageRequests client repository pull perPage (pagesAsked perPage pages entries.length)))
          (truncation pull pages perPage pages entries.length)) := by
  have htotal : (entries.drop (0 * perPage)).length = entries.length := by simp
  have hlist := run_listPages h hp pages pages htotal journal
  rw [pageReadings_eq_map, Nat.zero_mul, List.drop_zero] at hlist
  rw [listFiles, hcap, hsize]
  exact hlist

end Listing

theorem listFiles_pages (client : Client) (network : Network) (repository : String) (pull : Int)
    (limits : Limits) (perPage pages : Nat) (entries : List Value) (hp : 0 < perPage)
    (hsize : limits.pullFilesPerPage = .int perPage)
    (hcap : limits.maxPullFilePages = .int pages)
    (h : Paged client network repository pull perPage entries) (journal : Journal) :
    ∃ readings reports files,
      (listFiles client limits repository pull).run network journal =
        (.ok files, ⟨journal.requests ++ transcript network journal.requests readings,
          journal.events ++ (retries network journal.requests readings ++ reports)⟩) ∧
      files = entries.take (min entries.length (pages * perPage)) ∧
      readings = (List.range (min pages (entries.length / perPage + 1))).map (fun (page : Nat) =>
        client.filesRequest repository (toString pull) (.int (page + 1)) (.int perPage)) ∧
      reports =
        (if pages * perPage ≤ entries.length then [.pullFilesTruncated pull pages] else []) ∧
      (.pullFilesTruncated pull pages ∈ retries network journal.requests readings ++ reports ↔
        pages * perPage ≤ entries.length) ∧
      (files ≠ entries → .pullFilesTruncated pull pages ∈ reports) := by
  refine ⟨_, _, _, ?_, rfl, rfl, rfl, ?_, ?_⟩
  · rw [run_listFiles_paged h hp hsize hcap, told, noted, List.append_assoc, List.take_eq_take_min,
      Nat.min_comm]
    rfl
  · rw [List.mem_append]
    refine Iff.trans ⟨?_, Or.inr⟩ mem_truncation_iff
    rintro (hretry | hreport)
    · obtain ⟨url, failure, heq⟩ := exists_of_mem_retries hretry
      cases heq
    · exact hreport
  · intro hcut
    apply mem_truncation_iff.mpr
    by_contra hcap
    rw [Nat.min_eq_left (by omega), List.take_length] at hcut
    exact hcut rfl

def pageReply (perPage : Nat) (entries : List Value) (r : Request) : Reply :=
  .response ⟨200, .document (match r.action with
    | .get (some [_, (_, .int page)]) => .list (pageOf entries perPage (page.toNat - 1))
    | _ => .null), none⟩

def flakyNetwork (perPage : Nat) (entries : List Value) : Network := fun earlier r =>
  if earlier.length % 2 = 0 then .breakdown .timeout "timed out" else pageReply perPage entries r

theorem paged_flakyNetwork (client : Client) (repository : String) (pull : Int) (perPage : Nat)
    (entries : List Value) :
    Paged client (flakyNetwork perPage entries) repository pull perPage entries := by
  intro earlier page
  have hpage : (pageReply perPage entries (client.filesRequest repository (toString pull)
      (.int (page + 1)) (.int perPage))).document = .ok (.list (pageOf entries perPage page)) := by
    change Except.ok (Value.list (pageOf entries perPage ((page + 1 : Int).toNat - 1))) = _
    rw [show (page + 1 : Int).toNat - 1 = page by omega]
  rw [← hpage, finalReply]
  by_cases heven : earlier.length % 2 = 0
  · have hodd : ¬ (earlier.length + 1) % 2 = 0 := by omega
    simp [flakyNetwork, heven, hodd, Reply.isTransient, Breakdown.isTransient]
  · simp [flakyNetwork, heven, Reply.isTransient, pageReply]

def numberedEntries : List Value := [.int 1, .int 2, .int 3, .int 4]

def pairLimits (pages : Nat) : Limits :=
  { maxPullFilePages := .int pages, pullFilesPerPage := .int 2 }

def cappedListing (pages : Nat) : Except Stop (List Value) × Journal :=
  (listFiles servingClient (pairLimits pages) "acme/shop" 7).run (flakyNetwork 2 numberedEntries)
    ⟨[], []⟩

/-- Two pages hold the whole list and are full, so nothing shows that it ends there: with a cap of
two this is reported as truncated, and with a cap of three an empty page is asked for. -/
theorem listFiles_pages_boundary :
    (∃ later, cappedListing 2 = (.ok numberedEntries, later) ∧ later.requests.length = 4 ∧
      .pullFilesTruncated 7 2 ∈ later.events) ∧
    ∃ later, cappedListing 3 = (.ok numberedEntries, later) ∧ later.requests.length = 6 ∧
      .pullFilesTruncated 7 3 ∉ later.events := by
  have hpaged := paged_flakyNetwork servingClient "acme/shop" 7 2 numberedEntries
  constructor
  · obtain ⟨_, _, _, hrun, rfl, rfl, rfl, hwarned, -⟩ := listFiles_pages servingClient
      (flakyNetwork 2 numberedEntries) "acme/shop" 7 (pairLimits 2) 2 2 numberedEntries
      (by decide) rfl rfl hpaged ⟨[], []⟩
    exact ⟨_, hrun, rfl, hwarned.mpr (by decide)⟩
  · obtain ⟨_, _, _, hrun, rfl, rfl, rfl, hwarned, -⟩ := listFiles_pages servingClient
      (flakyNetwork 2 numberedEntries) "acme/shop" 7 (pairLimits 3) 2 3 numberedEntries
      (by decide) rfl rfl hpaged ⟨[], []⟩
    exact ⟨_, hrun, rfl, mt hwarned.mp (by decide)⟩

end DiffReach.Scope
