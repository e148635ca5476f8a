import DiffReach.Engine
import DiffReach.Proofs.Basic
import DiffReach.Proofs.Limits
import DiffReach.Proofs.Session
import DiffReach.Proofs.Text.Rendering
import Mathlib.Data.Set.List

namespace DiffReach

namespace Scope

/-- Whether a finding is shown under a scope: it is not suppressed and it is new, by its own label
if it has one and by the scope if it has none. -/
def isShown (scope : Option Scope) (f : Finding) : Bool :=
  f.isNew.getD (classify scope f).1 && !f.isSuppressed

theorem label_of_some {f : Finding} {b : Bool} (h : f.isNew = some b) (scope : Option Scope) :
    label scope f = f := by
  rw [label, h]

theorem label_of_none {f : Finding} (h : f.isNew = none) (scope : Option Scope) :
    label scope f = { f with
      isNew := some (classify scope f).1
      newReason := (classify scope f).2.elim .null fun r => .str r.text } := by
  rw [label, h]
  cases classify scope f with
  | mk isNew reason => cases reason <;> rfl

theorem isNew_label (scope : Option Scope) (f : Finding) :
    (label scope f).isNew = some (f.isNew.getD (classify scope f).1) := by
  cases h : f.isNew with
  | none => rw [label_of_none h]; rfl
  | some b => rw [label_of_some h, h]; rfl

theorem exists_label_eq (scope : Option Scope) (f : Finding) : ∃ isNew newReason,
    label scope f = { f with isNew := isNew, newReason := newReason } := by
  cases h : f.isNew with
  | none => exact ⟨_, _, label_of_none h scope⟩
  | some b => exact ⟨f.isNew, f.newReason, label_of_some h scope⟩

theorem label_label (scope other : Option Scope) (f : Finding) :
    label other (label scope f) = label scope f :=
  label_of_some (isNew_label scope f) other

end Scope

namespace CheckRun

open Scope

def shownFindings (scope : Option Scope) (findings : List Finding) : List Finding :=
  (findings.filter (isShown scope)).map (label scope)

theorem candidates_classify (findings : List Finding) (scope : Option Scope) :
    candidates (Engine.classify findings scope) = shownFindings scope findings := by
  rw [candidates, Engine.classify, List.filter_map, shownFindings]
  congr 1
  refine List.filter_congr fun f _ => ?_
  obtain ⟨isNew, newReason, heq⟩ := exists_label_eq scope f
  have hsuppressed : (label scope f).isSuppressed = f.isSuppressed := by rw [heq]
  rw [Function.comp, isNew_label, hsuppressed, isShown]
  simp

theorem hasReason_label {scope : Scope} {f : Finding} (hnew : f.isNew = none)
    (hshown : isShown (some scope) f = true) :
    hasReason .wholeFile (label (some scope) f) =
      !hasReason .changedLine (label (some scope) f) := by
  have hclass : (classify (some scope) f).1 = true := by
    simp only [isShown, hnew, Option.getD_none, Bool.and_eq_true] at hshown
    exact hshown.1
  rw [label_of_none hnew]
  simp only [classify, judge] at hclass ⊢
  cases hlines : scope.changedLines.fetch (Path.normalize f.filePath) with
  | some lines => rfl
  | none =>
    rw [hlines] at hclass
    dsimp only at hclass ⊢
    split at hclass
    · rename_i hchanged
      rw [if_pos hchanged]
      rfl
    · cases hclass

theorem hits_add_hits {scope : Scope} {findings : List Finding}
    (hnew : ∀ f ∈ findings, f.isNew = none) :
    let found := shownFindings (some scope) findings
    hits .changedLine found + hits .wholeFile found = found.length := by
  intro found
  -- A finding that the scope labels as new has one of the two reasons and not both.
  have hwhole : found.filter (hasReason .wholeFile) =
      found.filter fun f => !hasReason .changedLine f := by
    refine List.filter_congr fun f hf => ?_
    obtain ⟨g, hg, rfl⟩ := List.mem_map.mp hf
    obtain ⟨hmem, hshown⟩ := List.mem_filter.mp hg
    exact hasReason_label (hnew g hmem) hshown
  have hsplit := List.length_eq_countP_add_countP (hasReason .changedLine) (l := found)
  simp only [List.countP_eq_length_filter] at hsplit
  rw [hits, hits, hwhole, hsplit]
  simp

section Summary

open Text

def numbered (label : String) (n : Nat) : String :=
  label ++ toString n

def countLine : Nat → String :=
  numbered "**New unsuppressed issues (PR gate):** "

def omissionLine (shown omitted : Nat) : String :=
  s!"Showing first {shown}. {omitted} more omitted."

def speaksOfOmission (line : String) : Bool :=
  "Showing first ".toList.isPrefixOf line.toList

def preface (scope : Option Scope) (found : List Finding) : List String :=
  countLine found.length :: (hitLines scope found ++ "" :: (scopeLines scope ++ [""]))

def remainder (shown omitted : Nat) (url : String) : List String :=
  (if 0 < omitted then [omissionLine shown omitted, ""] else []) ++ ["Open full details: " ++ url]

theorem summary_eq (scope : Option Scope) (found : List Finding) (shown omitted : Nat)
    (url : String) : summary scope found shown omitted url =
      unlines (preface scope found ++ remainder shown omitted url) := by
  have homission : omissionLines shown omitted =
      if 0 < omitted then [omissionLine shown omitted, ""] else [] := by
    rw [omissionLines]
    cases omitted <;> rfl
  rw [summary, homission, preface, remainder]
  simp only [List.append_assoc, List.cons_append]
  rfl

def SingleLined (scope : Option Scope) (url : String) : Prop :=
  OneLine url ∧
    ∀ s, scope = some s → OneLine s.baseRef ∧ OneLine s.baseCommit ∧ OneLine s.headCommit

theorem oneLine_numbered {label : String} (h : OneLine label) (n : Nat) :
    OneLine (numbered label n) :=
  h.append (oneLine_toString n)

theorem oneLine_countLine (n : Nat) : OneLine (countLine n) :=
  oneLine_numbered (by decide) n

theorem oneLine_omissionLine (shown omitted : Nat) : OneLine (omissionLine shown omitted) := by
  refine .append (.append (.append (.append ?_ (oneLine_toString shown)) ?_)
    (oneLine_toString omitted)) ?_ <;> decide

theorem oneLine_firstSeven {s : String} (h : OneLine s) : OneLine (firstSeven s) := by
  rw [OneLine, firstSeven, String.toList_ofList]
  exact fun hmem => h (List.mem_of_mem_take hmem)

theorem oneLine_hitLines (scope : Option Scope) (found : List Finding) :
    ∀ line ∈ hitLines scope found, OneLine line := by
  cases scope with
  | none => exact List.forall_mem_nil _
  | some scope =>
    refine List.forall_mem_cons.mpr ⟨oneLine_numbered ?_ _,
      List.forall_mem_singleton.mpr (oneLine_numbered ?_ _)⟩ <;> decide

theorem oneLine_scopeLines {scope : Option Scope} {url : String} (h : SingleLined scope url) :
    ∀ line ∈ scopeLines scope, OneLine line := by
  cases scope with
  | none =>
    simp only [scopeLines, List.forall_mem_cons]
    exact ⟨by decide, by decide, List.forall_mem_nil _⟩
  | some scope =>
    obtain ⟨href, hbase, hhead⟩ := h.2 scope rfl
    simp only [scopeLines, List.forall_mem_cons]
    refine ⟨.append (by decide) (oneLine_toString_int _), ?_, ?_, ?_, List.forall_mem_nil _⟩
    · exact .append (.append (.append (.append (.append (by decide) href) (by decide))
        (oneLine_firstSeven hbase)) (by decide)) (oneLine_firstSeven hhead)
    · refine .append (by decide) ?_
      split
      · decide
      · exact .append (.append (by decide) (oneLine_toString _)) (by decide)
    · exact oneLine_numbered (by decide) _

def BeginsWith (c : Char) (s : String) : Prop :=
  s.toList.head? = some c

instance (c : Char) (s : String) : Decidable (BeginsWith c s) :=
  inferInstanceAs (Decidable (_ = _))

theorem BeginsWith.append {c : Char} {s : String} (h : BeginsWith c s) (t : String) :
    BeginsWith c (s ++ t) := by
  rw [BeginsWith, String.toList_append, List.head?_append, h]
  rfl

theorem speaksOfOmission_of_beginsWith {c : Char} {s : String} (h : BeginsWith c s) (hc : c ≠ 'S') :
    speaksOfOmission s = false := by
  refine Bool.eq_false_iff.mpr fun hspeaks => hc ?_
  obtain ⟨rest, hrest⟩ := List.isPrefixOf_iff_prefix.mp hspeaks
  rw [BeginsWith, ← hrest, List.head?_append] at h
  exact (Option.some.inj h).symm

theorem speaksOfOmission_append (t : String) : speaksOfOmission ("Showing first " ++ t) = true :=
  List.isPrefixOf_iff_prefix.mpr ⟨t.toList, String.toList_append.symm⟩

theorem speaksOfOmission_omissionLine (shown omitted : Nat) :
    speaksOfOmission (omissionLine shown omitted) = true := by
  -- The equation is stated here: the one that is generated for the definition is slow to make.
  have hline : omissionLine shown omitted =
      "Showing first " ++ toString shown ++ ". " ++ toString omitted ++ " more omitted." := rfl
  rw [hline, String.append_assoc, String.append_assoc, String.append_assoc]
  exact speaksOfOmission_append _

def IsMarked (line : String) : Prop :=
  line = "" ∨ BeginsWith '*' line ∨ BeginsWith '-' line

theorem isMarked_of_mem_preface (scope : Option Scope) (found : List Finding) :
    ∀ line ∈ preface scope found, IsMarked line := by
  have hcount : BeginsWith '*' (countLine found.length) := .append (by decide) _
  cases scope with
  | none =>
    simp only [preface, hitLines, scopeLines, List.nil_append, List.cons_append,
      List.forall_mem_cons]
    exact ⟨.inr (.inl hcount), .inl rfl, .inr (.inl (by decide)), .inr (.inl (by decide)),
      .inl rfl, List.forall_mem_nil _⟩
  | some scope =>
    simp only [preface, hitLines, scopeLines, List.nil_append, List.cons_append,
      List.forall_mem_cons]
    refine ⟨.inr (.inl hcount), .inr (.inr (.append ?_ _)), .inr (.inr (.append ?_ _)), .inl rfl,
      .inr (.inl (.append ?_ _)),
      .inr (.inl (.append (.append (.append (.append (.append ?_ _) _) _) _) _)),
      .inr (.inl (.append ?_ _)), .inr (.inl (.append ?_ _)), .inl rfl,
      List.forall_mem_nil _⟩ <;> decide

theorem filter_preface (scope : Option Scope) (found : List Finding) :
    (preface scope found).filter speaksOfOmission = [] := by
  refine List.filter_eq_nil_iff.mpr fun line hline => Bool.eq_false_iff.mp ?_
  rcases isMarked_of_mem_preface scope found line hline with rfl | hstar | hdash
  · decide
  · exact speaksOfOmission_of_beginsWith hstar (by decide)
  · exact speaksOfOmission_of_beginsWith hdash (by decide)

theorem filter_remainder (shown omitted : Nat) (url : String) :
    (remainder shown omitted url).filter speaksOfOmission =
      if 0 < omitted then [omissionLine shown omitted] else [] := by
  have hdetails : speaksOfOmission ("Open full details: " ++ url) = false :=
    speaksOfOmission_of_beginsWith (c := 'O') (.append (by decide) url) (by decide)
  have hempty : speaksOfOmission "" = false := by decide
  rw [remainder]
  split <;> simp [speaksOfOmission_omissionLine, hdetails, hempty]

variable (scope : Option Scope) (found : List Finding) (shown omitted : Nat)

theorem exists_lines_summary (url : String) : ∃ rest,
    lines (summary scope found shown omitted url) =
      countLine found.length :: hitLines scope found ++ rest := by
  have hhead : ∀ line ∈ countLine found.length :: hitLines scope found, OneLine line :=
    List.forall_mem_cons.mpr ⟨oneLine_countLine _, oneLine_hitLines scope found⟩
  have hsplit : preface scope found ++ remainder shown omitted url =
      (countLine found.length :: hitLines scope found)
        ++ ("" :: (scopeLines scope ++ [""]) ++ remainder shown omitted url) := by
    simp [preface]
  rw [summary_eq, hsplit, lines_unlines_append hhead (by simp)]
  exact ⟨_, rfl⟩

theorem filter_lines_summary {scope : Option Scope} {url : String} (h : SingleLined scope url) :
    (lines (summary scope found shown omitted url)).filter speaksOfOmission =
      if 0 < omitted then [omissionLine shown omitted] else [] := by
  have hpreface : ∀ line ∈ preface scope found, OneLine line := by
    simp only [preface, List.forall_mem_cons, List.forall_mem_append]
    exact ⟨oneLine_countLine _, oneLine_hitLines scope found, by decide, oneLine_scopeLines h,
      by decide⟩
  have hremainder : ∀ line ∈ remainder shown omitted url, OneLine line := by
    have hurl : OneLine ("Open full details: " ++ url) := .append (by decide) h.1
    have homission := oneLine_omissionLine shown omitted
    have hempty : OneLine "" := by decide
    rw [remainder]
    split <;> simp [hurl, homission, hempty]
  have hall := List.forall_mem_append.mpr ⟨hpreface, hremainder⟩
  rw [summary_eq, lines_unlines (by simp [preface]) hall, List.filter_append, filter_preface,
    filter_remainder, List.nil_append]

end Summary

section Building

def IsSliceable (v : Value) : Prop :=
  v.truthy = false ∨ (∃ s, v = .str s) ∨ (∃ t, v = .torn t) ∨ ∃ items, v = .list items

theorem exists_details_iff (m : Int) (snippet : Value) :
    (∃ details, Remark.details? (.int m) snippet = .ok details) ↔ IsSliceable snippet := by
  rw [Remark.details?, Value.orElse, IsSliceable]
  cases htruthy : snippet.truthy with
  | false => simp [Value.cut_int, Except.map]
  | true =>
    rw [if_pos rfl]
    cases snippet <;> simp [Value.cut_int, Except.map]

theorem exists_ofFinding_iff {limits : Limits} {m : Int} (hlimit : limits.maxRawDetails = .int m)
    (f : Finding) : (∃ remark, Remark.ofFinding limits f = .ok remark) ↔ IsSliceable f.snippet := by
  rw [← exists_details_iff m, Remark.ofFinding, hlimit]
  cases Remark.details? (.int m) f.snippet with
  | error fault =>
    constructor
    · rintro ⟨_, h⟩
      cases h
    · rintro ⟨_, h⟩
      cases h
  | ok details => exact ⟨fun _ => ⟨details, rfl⟩, fun _ => ⟨_, rfl⟩⟩

variable {e : Emitter} {n : Nat}

theorem build_eq_ok_iff (hlimit : e.limits.maxAnnotations = .int n) {passed : Bool}
    {findings : List Finding} {scope : Option Scope} {scanId : String} {payload : Payload} :
    e.build passed findings scope scanId = .ok payload ↔ ∃ remarks,
      ((candidates findings).take n).map (Remark.ofFinding e.limits) = remarks.map .ok ∧
      payload = {
        passed
        summary := summary scope (candidates findings) remarks.length
          ((candidates findings).length - remarks.length) (e.detailsUrl scanId)
        remarks
        omitted := (candidates findings).length - remarks.length
        detailsUrl := e.detailsUrl scanId } := by
  rw [Emitter.build, hlimit, Value.cut_natCast]
  simp only [← mapM_eq_ok_iff, bind, Except.bind]
  cases ((candidates findings).take n).mapM (Remark.ofFinding e.limits) with
  | error fault =>
    constructor
    · intro h
      cases h
    · rintro ⟨_, h, -⟩
      cases h
  | ok remarks =>
    constructor
    · intro h
      exact ⟨remarks, rfl, (Except.ok.inj h).symm⟩
    · rintro ⟨_, h, rfl⟩
      obtain rfl := Except.ok.inj h
      rfl

theorem exists_build_iff (hlimit : e.limits.maxAnnotations = .int n) {m : Int}
    (hdetails : e.limits.maxRawDetails = .int m) (passed : Bool) (findings : List Finding)
    (scope : Option Scope) (scanId : String) :
    (∃ payload, e.build passed findings scope scanId = .ok payload) ↔
      ∀ f ∈ (candidates findings).take n, IsSliceable f.snippet := by
  -- A list of outcomes is the image of a list of remarks if every one of them is a remark.
  have hrange : (∃ remarks : List Remark, ((candidates findings).take n).map
        (Remark.ofFinding e.limits) = remarks.map .ok) ↔
      ∀ f ∈ (candidates findings).take n, IsSliceable f.snippet := by
    have hmem := Set.ext_iff.mp (Set.range_list_map (Except.ok : Remark → Except Fault Remark))
      (((candidates findings).take n).map (Remark.ofFinding e.limits))
    simp only [Set.mem_range, Set.mem_ofPred_eq, List.forall_mem_map,
      eq_comm (b := Remark.ofFinding _ _), exists_ofFinding_iff hdetails] at hmem
    rw [← hmem]
    simp only [eq_comm]
  rw [← hrange]
  constructor
  · rintro ⟨payload, hbuild⟩
    obtain ⟨remarks, hremarks, -⟩ := (build_eq_ok_iff hlimit).mp hbuild
    exact ⟨remarks, hremarks⟩
  · rintro ⟨remarks, hremarks⟩
    exact ⟨_, (build_eq_ok_iff hlimit).mpr ⟨remarks, hremarks, rfl⟩⟩

theorem exists_build_of_isSliceable (hl : e.limits.Positive) {findings : List Finding}
    (h : ∀ f ∈ findings, IsSliceable f.snippet) (passed : Bool) (scope : Option Scope)
    (scanId : String) :
    ∃ payload, e.build passed (Engine.classify findings scope) scope scanId = .ok payload := by
  refine (exists_build_iff (hl.get_eq .maxAnnotations (by decide))
    (hl.get_eq .maxRawDetails (by decide)) passed _ scope scanId).mpr fun f hf => ?_
  obtain ⟨g, hg, rfl⟩ := List.mem_map.mp (List.mem_of_mem_filter (List.mem_of_mem_take hf))
  obtain ⟨isNew, newReason, heq⟩ := exists_label_eq scope g
  rw [heq]
  exact h g hg

structure Accounts (limits : Limits) (n : Nat) (scope : Option Scope) (findings : List Finding)
    (payload : Payload) : Prop where
  remarks : ((shownFindings scope findings).take n).map (Remark.ofFinding limits) =
    payload.remarks.map .ok
  total : payload.remarks.length + payload.omitted = (shownFindings scope findings).length
  counted : (Text.lines payload.summary)[0]? =
    some (countLine (shownFindings scope findings).length)
  summary : payload.summary = Text.unlines (preface scope (shownFindings scope findings)
    ++ remainder payload.remarks.length payload.omitted payload.detailsUrl)
  omission : SingleLined scope payload.detailsUrl →
    (Text.lines payload.summary).filter speaksOfOmission =
      if 0 < payload.omitted then [omissionLine payload.remarks.length payload.omitted] else []
  reasons : ∀ s, scope = some s → (∀ f ∈ findings, f.isNew = none) → ∃ byLine byFile,
    (Text.lines payload.summary)[1]? = some (numbered "- changed-line hits: " byLine) ∧
    (Text.lines payload.summary)[2]? = some (numbered "- file-fallback hits: " byFile) ∧
    byLine + byFile = (shownFindings scope findings).length

theorem accounts_of_build (hlimit : e.limits.maxAnnotations = .int n) {passed : Bool}
    {findings : List Finding} {scope : Option Scope} {scanId : String} {payload : Payload}
    (h : e.build passed (Engine.classify findings scope) scope scanId = .ok payload) :
    Accounts e.limits n scope findings payload := by
  rw [build_eq_ok_iff hlimit, candidates_classify] at h
  obtain ⟨remarks, hremarks, rfl⟩ := h
  have hlength : remarks.length ≤ (shownFindings scope findings).length := by
    have hlengths := congrArg List.length hremarks
    simp only [List.length_map, List.length_take] at hlengths
    omega
  obtain ⟨rest, hlines⟩ := exists_lines_summary scope (shownFindings scope findings) remarks.length
    ((shownFindings scope findings).length - remarks.length) (e.detailsUrl scanId)
  constructor
  case remarks => exact hremarks
  case total => exact Nat.add_sub_cancel' hlength
  case counted => rw [hlines]; rfl
  case summary => exact summary_eq ..
  case omission => exact fun hsingle => filter_lines_summary _ _ _ hsingle
  case reasons =>
    rintro s rfl hnew
    refine ⟨_, _, ?_, ?_, hits_add_hits hnew⟩
    · rw [hlines]; rfl
    · rw [hlines]; rfl

end Building

end CheckRun

namespace Engine

structure Labels (scope : Option Scope) (f g : Finding) : Prop where
  rest : ∃ isNew newReason, g = { f with isNew := isNew, newReason := newReason }
  isNew : g.isNew = some (f.isNew.getD (Scope.classify scope f).1)
  kept : f.isNew ≠ none → g = f

theorem labels_label (scope : Option Scope) (f : Finding) :
    Labels scope f (Scope.label scope f) where
  rest := Scope.exists_label_eq scope f
  isNew := Scope.isNew_label scope f
  kept h := by
    obtain ⟨b, hb⟩ := Option.ne_none_iff_exists'.mp h
    exact Scope.label_of_some hb scope

theorem classify_classify (findings : List Finding) (scope other : Option Scope) :
    classify (classify findings scope) other = classify findings scope := by
  rw [classify, classify, List.map_map]
  exact List.map_congr_left fun f _ => Scope.label_label scope other f

section Annotate

variable {e : Engine} {url commit : Option String} {findings : List Finding}
  {passed publish published : Bool} {scanId : String} {payload : CheckRun.Payload}
  {network : Host.Network} {journal last : Journal}

theorem run_annotate {scope : Option Scope} {later : Journal}
    (hscope : (e.scope url commit).run network journal = (.ok scope, later))
    (hbuild : e.emitter.build passed (classify findings scope) scope scanId = .ok payload)
    (hpublish : (if publish then e.emitter.publish payload url commit else pure false).run network
      later = (.ok published, last)) :
    (e.annotate url commit findings passed scanId publish).run network journal =
      (.ok (payload, published), last) := by
  rw [annotate, Session.run_bind_of_ok hscope, hbuild,
    Session.run_bind_of_ok (Session.run_settle_ok _ _ _)]
  cases publish with
  | false =>
    cases hpublish
    rfl
  | true =>
    rw [if_pos rfl] at hpublish ⊢
    rw [Session.run_bind_of_ok hpublish]
    rfl

theorem run_annotate_iff :
    (e.annotate url commit findings passed scanId publish).run network journal =
        (.ok (payload, published), last) ↔
      ∃ scope later, (e.scope url commit).run network journal = (.ok scope, later) ∧
        e.emitter.build passed (classify findings scope) scope scanId = .ok payload ∧
        (if publish then e.emitter.publish payload url commit else pure false).run network later =
          (.ok published, last) := by
  constructor
  · intro h
    rw [annotate] at h
    obtain ⟨scope, later, hscope, hrest⟩ := Session.exists_run_of_run_bind h
    obtain ⟨built, middle, hsettle, hpublish⟩ := Session.exists_run_of_run_bind hrest
    obtain ⟨hbuild, rfl⟩ := Session.eq_of_run_settle hsettle
    cases publish with
    | false =>
      cases hpublish
      exact ⟨scope, _, hscope, hbuild, rfl⟩
    | true =>
      rw [if_pos rfl] at hpublish
      obtain ⟨sent, final, hsent, hlast⟩ := Session.exists_run_of_run_bind hpublish
      cases hlast
      exact ⟨scope, _, hscope, hbuild, hsent⟩
  · rintro ⟨scope, later, hscope, hbuild, hpublish⟩
    exact run_annotate hscope hbuild hpublish

end Annotate

theorem annotate_conserves (e : Engine) {n : Nat}
    (hlimit : e.emitter.limits.maxAnnotations = .int n) (findings : List Finding) :
    (∀ passed scope scanId,
      let built := e.emitter.build passed (classify findings scope) scope scanId
      (∀ payload, built = .ok payload →
        CheckRun.Accounts e.emitter.limits n scope findings payload) ∧
      ∀ m : Int, e.emitter.limits.maxRawDetails = .int m →
        ((∃ payload, built = .ok payload) ↔
          ∀ f ∈ (CheckRun.shownFindings scope findings).take n,
            CheckRun.IsSliceable f.snippet)) ∧
    (∀ url commit passed scanId publish network journal payload published last,
      (e.annotate url commit findings passed scanId publish).run network journal =
          (.ok (payload, published), last) ↔
        ∃ scope later, (e.scope url commit).run network journal = (.ok scope, later) ∧
          e.emitter.build passed (classify findings scope) scope scanId = .ok payload ∧
          (if publish then e.emitter.publish payload url commit else pure false).run network
            later = (.ok published, last)) ∧
    (∀ scope, List.Forall₂ (Labels scope) findings (classify findings scope)) ∧
    ∀ scope other, classify (classify findings scope) other = classify findings scope := by
  refine ⟨fun passed scope scanId => ⟨fun payload => CheckRun.accounts_of_build hlimit, ?_⟩,
    fun _ _ _ _ _ _ _ _ _ _ => run_annotate_iff, fun scope => ?_, classify_classify findings⟩
  · intro m hdetails
    rw [← CheckRun.candidates_classify]
    exact CheckRun.exists_build_iff hlimit hdetails passed _ scope scanId
  · rw [classify, List.forall₂_map_right_iff, List.forall₂_same]
    exact fun f _ => labels_label scope f

def briefEngine : Engine :=
  create ⟨"t", "https://api.github.com", .int 20⟩ { maxAnnotations := .int 2 } "https://app"

def partScope : Scope :=
  ⟨"acme/shop", 7, "main", "b45e", "c0ffee", ["cart.py", "logo.py"], [("cart.py", [3])],
    ["logo.py"]⟩

def flagged (path : String) (line : Int) (isNew : Option Bool) (isSuppressed : Bool) : Finding :=
  ⟨"R1", path, line, "high", "m", "", .null, isNew, isSuppressed, .null, path⟩

def mixedFindings : List Finding := [
  flagged "cart.py" 3 none false,
  flagged "cart.py" 4 none false,
  flagged "cart.py" 3 none true,
  flagged "till.py" 9 (some true) false,
  flagged "cart.py" 3 (some false) false,
  flagged "logo.py" 1 none false]

theorem annotate_conserves_mixed :
    briefEngine.emitter.limits.maxAnnotations = .int 2 ∧
    (CheckRun.shownFindings (some partScope) mixedFindings).map Finding.filePath =
      ["cart.py", "till.py", "logo.py"] ∧
    ∃ payload, briefEngine.emitter.build false (classify mixedFindings (some partScope))
        (some partScope) "9" = .ok payload ∧
      CheckRun.Accounts briefEngine.emitter.limits 2 (some partScope) mixedFindings payload ∧
      payload.remarks.length = 2 ∧ payload.omitted = 1 := by
  have hlimit : briefEngine.emitter.limits.maxAnnotations = .int (2 : Nat) := rfl
  have hpaths : (CheckRun.shownFindings (some partScope) mixedFindings).map Finding.filePath =
      ["cart.py", "till.py", "logo.py"] := by decide +kernel
  obtain ⟨hbuilt, -⟩ := annotate_conserves briefEngine hlimit mixedFindings
  obtain ⟨haccounts, hreturns⟩ := hbuilt false (some partScope) "9"
  have hempty : ∀ f ∈ (CheckRun.shownFindings (some partScope) mixedFindings).take 2,
      f.snippet.truthy = false := by decide +kernel
  obtain ⟨payload, hpayload⟩ := (hreturns 60000 rfl).mpr fun f hf => .inl (hempty f hf)
  have h := haccounts payload hpayload
  have hfound := congrArg List.length hpaths
  have hshown := congrArg List.length h.remarks
  have htotal := h.total
  simp only [List.length_map, List.length_take, List.length_cons, List.length_nil] at hfound hshown
  exact ⟨rfl, hpaths, payload, hpayload, h, by omega, by omega⟩

end Engine

end DiffReach
