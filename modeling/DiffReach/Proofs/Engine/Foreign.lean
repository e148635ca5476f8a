import DiffReach.Proofs.CheckRun.Conservation
import DiffReach.Proofs.Engine.Contact
import DiffReach.Proofs.Repository
import DiffReach.Proofs.Scope.WholeOrNone

namespace DiffReach.Engine

open Host

/-- Nothing is sent for an address: it has no scope and no sources, and a check run for it is built
without a scope and not published. -/
structure LeavesAlone (e : Engine) (url commit : Option String) (network : Network)
    (journal : Journal) : Prop where
  scope : ∃ later, (e.scope url commit).run network journal = (.ok none, later) ∧
    later.requests = journal.requests
  snapshot : ∃ found later, (e.snapshot url commit).run network journal = (.ok found, later) ∧
    found.texts = [] ∧ later.requests = journal.requests
  annotate : ∀ findings passed scanId publish, ∃ later,
    (e.annotate url commit findings passed scanId publish).run network journal =
      (((e.emitter.build passed (classify findings none) none scanId).mapError .fault).map
        fun payload => (payload, false), later) ∧
    later.requests = journal.requests

section

variable {e : Engine} {url commit : Option String} {network : Network} {journal : Journal}

theorem exists_run_annotate_of_none (h : Repository.path? (url.getD "") = none)
    (findings : List Finding) (passed : Bool) (scanId : String) (publish : Bool) :
    ∃ later, (e.annotate url commit findings passed scanId publish).run network journal =
        (((e.emitter.build passed (classify findings none) none scanId).mapError .fault).map
          fun payload => (payload, false), later) ∧
      later.requests = journal.requests := by
  have hunplaced : Scope.Unplaced e.client url commit := .inr (.inr (.inr (.inr h)))
  obtain ⟨middle, hscope, hsent⟩ :=
    Scope.run_resolve_of_unplaced hunplaced e.limits network journal
  cases hbuild : e.emitter.build passed (classify findings none) none scanId with
  | error fault =>
    refine ⟨middle, ?_, hsent⟩
    rw [annotate, scope, Session.run_bind_of_ok hscope, hbuild]
    rfl
  | ok payload =>
    have hnowhere : ∀ repository, ¬ e.emitter.Addresses url commit repository := by
      intro repository haddress
      exact Option.some_ne_none repository (haddress.2.1.symm.trans h)
    obtain ⟨later, hpublish, hsame⟩ : ∃ later, (if publish then
        e.emitter.publish payload url commit else pure false).run network middle =
          (.ok false, later) ∧ later.requests = middle.requests := by
      cases publish with
      | false => exact ⟨middle, rfl, rfl⟩
      | true => exact CheckRun.Emitter.run_publish_of_not hnowhere payload network middle
    exact ⟨later, run_annotate hscope hbuild hpublish, hsame.trans hsent⟩

theorem leavesAlone_of_none (h : Repository.path? (url.getD "") = none) :
    e.LeavesAlone url commit network journal where
  scope := Scope.run_resolve_of_unplaced (.inr (.inr (.inr (.inr h)))) e.limits network journal
  snapshot := by
    rw [Engine.snapshot, h]
    exact ⟨_, _, rfl, rfl, rfl⟩
  annotate := exists_run_annotate_of_none h

theorem exists_requests_snapshot {repository : String}
    (h : Repository.path? (url.getD "") = some repository) :
    ∃ more, ((e.snapshot url commit).run network journal).2.requests =
      journal.requests ++ e.client.treeRequest repository (spelled commit) :: more := by
  have hsends : (e.snapshot url commit).SendsIn .inTurn network journal _ :=
    sendsIn_snapshot_of_path h commit .inTurn journal
  obtain ⟨rs, files, sent, ⟨rfl, -⟩, -, hsent⟩ := hsends
  obtain ⟨more, hattempts⟩ := exists_attempts_eq_cons network journal.requests
    (e.client.treeRequest repository (spelled commit))
  refine ⟨more ++ sent, ?_⟩
  rw [hsent, transcript_singleton, hattempts, List.append_assoc]
  rfl

end

theorem leavesAlone_iff_not_isDisguised (e : Engine) {url : String}
    (hforeign : Repository.IsForeign url) (commit : Option String) (network : Network)
    (journal : Journal) :
    (e.LeavesAlone (some url) commit network journal ↔ ¬ Repository.IsDisguised url) ∧
    (Repository.IsDisguised url → ∃ a : Repository.Address,
      a.text = Text.trim url.toList ∧ ¬ a.IsGenuine ∧
      ∃ more, ((e.snapshot (some url) commit).run network journal).2.requests =
        journal.requests ++ e.client.treeRequest (String.ofList a.path) (spelled commit) :: more) ∧
    (e.emitter.limits.Positive → ∀ findings : List Finding,
      (∀ f ∈ findings, CheckRun.IsSliceable f.snippet) → ∀ passed scanId,
        ∃ payload, e.emitter.build passed (classify findings none) none scanId = .ok payload) := by
  refine ⟨⟨?_, ?_⟩, ?_, fun hl findings hsliceable passed scanId =>
    CheckRun.exists_build_of_isSliceable hl hsliceable passed none scanId⟩
  -- A snapshot asks for the listing before anything else, so it tells the two cases apart.
  · intro hleaves hdisguised
    obtain ⟨path, hpath⟩ := (Repository.isDisguised_iff hforeign).mp hdisguised
    obtain ⟨found, later, hrun, -, hsame⟩ := hleaves.snapshot
    obtain ⟨more, hmore⟩ : ∃ more, ((e.snapshot (some url) commit).run network journal).2.requests =
        journal.requests ++ e.client.treeRequest path (spelled commit) :: more :=
      exists_requests_snapshot hpath
    rw [hrun, hsame] at hmore
    exact List.cons_ne_nil _ _ (List.self_eq_append_right.mp hmore)
  · intro hplain
    refine leavesAlone_of_none (Option.eq_none_iff_forall_ne_some.mpr fun path hpath => hplain ?_)
    exact (Repository.isDisguised_iff hforeign).mpr ⟨path, hpath⟩
  · intro hdisguised
    obtain ⟨path, hpath⟩ := (Repository.isDisguised_iff hforeign).mp hdisguised
    obtain ⟨a, ha, rfl⟩ := Repository.exists_address_of_path? hpath
    exact ⟨a, ha, Repository.not_isGenuine_of_isForeign hforeign ha, exists_requests_snapshot hpath⟩

theorem leavesAlone_iff_not_isDisguised_hosts :
    (Repository.IsForeign "https://gitlab.com/github.com/acme" ∧
      plainEngine.LeavesAlone (some "https://gitlab.com/github.com/acme") (some "c0ffee")
        flakyNetwork ⟨[], []⟩ ∧
      plainEngine.emitter.limits.Positive ∧
      ∃ payload, plainEngine.emitter.build true (classify mixedFindings none) none "1" =
        .ok payload) ∧
    Repository.IsDisguised "https://gitlab.com/github.com/acme/shop" ∧
      ∃ a : Repository.Address,
        a.text = Text.trim "https://gitlab.com/github.com/acme/shop".toList ∧ ¬ a.IsGenuine ∧
        ∃ more, ((plainEngine.snapshot (some "https://gitlab.com/github.com/acme/shop")
            (some "c0ffee")).run flakyNetwork ⟨[], []⟩).2.requests =
          plainEngine.client.treeRequest (String.ofList a.path) "c0ffee" :: more := by
  have hforeign : Repository.IsForeign "https://gitlab.com/github.com/acme" := by decide +kernel
  have hpath : Repository.path? "https://gitlab.com/github.com/acme" = none := by decide +kernel
  have hplain : ¬ Repository.IsDisguised "https://gitlab.com/github.com/acme" := by
    rw [Repository.isDisguised_iff hforeign, hpath]
    rintro ⟨path, hsome⟩
    cases hsome
  have hforeign' : Repository.IsForeign "https://gitlab.com/github.com/acme/shop" := by
    decide +kernel
  have hdisguised : Repository.IsDisguised "https://gitlab.com/github.com/acme/shop" :=
    (Repository.isDisguised_iff hforeign').mpr ⟨"acme/shop", by decide +kernel⟩
  have hnull : ∀ f ∈ mixedFindings, f.snippet.truthy = false := by decide +kernel
  obtain ⟨hleaves, -, hbuilds⟩ := leavesAlone_iff_not_isDisguised plainEngine hforeign
    (some "c0ffee") flakyNetwork ⟨[], []⟩
  obtain ⟨-, hasks, -⟩ := leavesAlone_iff_not_isDisguised plainEngine hforeign'
    (some "c0ffee") flakyNetwork ⟨[], []⟩
  exact ⟨⟨hforeign, hleaves.mpr hplain, Limits.positive_default,
    hbuilds Limits.positive_default mixedFindings (fun f hf => .inl (hnull f hf)) true "1"⟩,
    hdisguised, hasks hdisguised⟩

/-- A host whose name ends in that of the host is taken for it: a check run is created. -/
theorem published_for_lookalike :
    Repository.IsForeign "https://notgithub.com/acme/shop" ∧
    ¬ plainEngine.LeavesAlone (some "https://notgithub.com/acme/shop") (some "c0ffee") flakyNetwork
      ⟨[], []⟩ ∧
    ∃ payload later, (plainEngine.annotate (some "https://notgithub.com/acme/shop") (some "c0ffee")
        [] true "1" true).run flakyNetwork ⟨[], []⟩ = (.ok (payload, true), later) ∧
      later.requests.map Request.line = [
        "GET https://api.github.com/repos/acme/shop/commits/c0ffee/pulls",
        "GET https://api.github.com/repos/acme/shop/commits/c0ffee/pulls",
        "POST https://api.github.com/repos/acme/shop/check-runs"] := by
  refine ⟨by decide +kernel, fun hleaves => ?_, _, _, rfl, by decide +kernel⟩
  obtain ⟨later, hrun, hsame⟩ := hleaves.scope
  have hsent : ((plainEngine.scope (some "https://notgithub.com/acme/shop")
      (some "c0ffee")).run flakyNetwork ⟨[], []⟩).2.requests.length = 2 := by decide +kernel
  rw [hrun, hsame] at hsent
  cases hsent

end DiffReach.Engine
