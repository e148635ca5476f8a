import DiffReach.Finding
import DiffReach.Proofs.Limits.Coercion

namespace DiffReach.Finding

def IsInfinite (v : Value) : Prop :=
  ∃ negative, v = .float (.infinite negative)

inductive IsLine (v : Value) : Int → Prop
  | whole {n : Int} : v.IsWhole n → IsLine v n
  | first : (∀ n, ¬ v.IsWhole n) → ¬ IsInfinite v → IsLine v 1

section Line

variable {v : Value} {n : Int} {fault : Fault}

theorem readLine_of_isWhole (h : v.IsWhole n) : readLine v = .ok n := by
  rw [readLine, Value.toInt_eq_ok_iff.mpr h]

theorem readLine_of_isInfinite (h : IsInfinite v) : readLine v = .error .unbounded := by
  obtain ⟨negative, rfl⟩ := h
  rfl

theorem readLine_of_forall_not (hnone : ∀ n, ¬ v.IsWhole n) (hfinite : ¬ IsInfinite v) :
    readLine v = .ok 1 := by
  cases hv : v.toInt with
  | ok n => exact absurd (Value.toInt_eq_ok_iff.mp hv) (hnone n)
  | error fault =>
    rcases Value.toInt_eq_error hv with hfault | ⟨-, hinf⟩
    · simp only [readLine, hv, hfault, if_true]
    · exact absurd hinf hfinite

theorem readLine_of_isLine (h : IsLine v n) : readLine v = .ok n := by
  cases h with
  | whole hn => exact readLine_of_isWhole hn
  | first hnone hfinite => exact readLine_of_forall_not hnone hfinite

theorem exists_isLine (h : ¬ IsInfinite v) : ∃ n, IsLine v n := by
  by_cases hwhole : ∃ n, v.IsWhole n
  · obtain ⟨n, hn⟩ := hwhole
    exact ⟨n, .whole hn⟩
  · exact ⟨1, .first (not_exists.mp hwhole) h⟩

theorem readLine_eq_ok_iff : readLine v = .ok n ↔ IsLine v n := by
  refine ⟨fun h => ?_, readLine_of_isLine⟩
  have hfinite : ¬ IsInfinite v := by
    intro hinf
    rw [readLine_of_isInfinite hinf] at h
    cases h
  obtain ⟨m, hm⟩ := exists_isLine hfinite
  rw [readLine_of_isLine hm] at h
  exact Except.ok.inj h ▸ hm

theorem readLine_eq_error_iff : readLine v = .error fault ↔ fault = .unbounded ∧ IsInfinite v := by
  constructor
  · intro h
    by_cases hinf : IsInfinite v
    · rw [readLine_of_isInfinite hinf] at h
      exact ⟨(Except.error.inj h).symm, hinf⟩
    · obtain ⟨n, hn⟩ := exists_isLine hinf
      rw [readLine_of_isLine hn] at h
      cases h
  · rintro ⟨rfl, hinf⟩
    exact readLine_of_isInfinite hinf

theorem IsLine.neg_iff (h : IsLine v n) : n < 0 ↔ ∃ m < 0, v.IsWhole m := by
  constructor
  · intro hn
    cases h with
    | whole hwhole => exact ⟨n, hn, hwhole⟩
    | first => exact absurd hn (by decide)
  · rintro ⟨m, hm, hwhole⟩
    have heq := (readLine_of_isWhole hwhole).symm.trans (readLine_of_isLine h)
    exact Except.ok.inj heq ▸ hm

end Line

def given (fields : Dict Value) (name : String) : Value :=
  (fields.fetch name).getD .null

def givenPath (fields : Dict Value) : Value :=
  (given fields "file_path").orElse (given fields "file")

def givenLine (fields : Dict Value) : Value :=
  ((given fields "line_number").orElse (given fields "line")).orElse (.int 1)

structure Describes (fields : Dict Value) (f : Finding) : Prop where
  line : IsLine (givenLine fields) f.lineNumber
  path : f.filePath = (givenPath fields).textOrEmpty
  texts : [f.ruleId, f.severity, f.message, f.category] =
    ["rule_id", "severity", "message", "category"].map fun name => (given fields name).textOrEmpty
  kept : [f.snippet, f.newReason] = ["snippet", "new_reason"].map (given fields)
  newness : ∀ b, f.isNew = some b ↔
    given fields "is_new" ≠ .null ∧ (given fields "is_new").truthy = b
  suppressed : f.isSuppressed = (given fields "is_suppressed").truthy
  identified : f.findingId = if (given fields "finding_id").textOrEmpty = "" then
    defaultId f.ruleId f.filePath f.lineNumber else (given fields "finding_id").textOrEmpty

section Objects

variable {fields : Dict Value} {f g : Finding} {fault : Fault}

theorem readNewness_eq_some_iff {v : Value} {b : Bool} :
    readNewness v = some b ↔ v ≠ .null ∧ v.truthy = b := by
  cases v <;> simp [readNewness]

theorem Describes.unique (hf : Describes fields f) (hg : Describes fields g) : f = g := by
  have hline : f.lineNumber = g.lineNumber := Except.ok.inj
    ((readLine_of_isLine hf.line).symm.trans (readLine_of_isLine hg.line))
  have hpath : f.filePath = g.filePath := hf.path.trans hg.path.symm
  have htexts := hf.texts.trans hg.texts.symm
  have hkept := hf.kept.trans hg.kept.symm
  have hnew : f.isNew = g.isNew := Option.ext fun b => (hf.newness b).trans (hg.newness b).symm
  have hsuppressed := hf.suppressed.trans hg.suppressed.symm
  have hid := hf.identified
  simp only [List.cons.injEq, and_true] at htexts hkept
  rw [htexts.1, hpath, hline, ← hg.identified] at hid
  cases f
  cases g
  simp_all

def atLine (fields : Dict Value) (n : Int) : Finding where
  ruleId := (given fields "rule_id").textOrEmpty
  filePath := (givenPath fields).textOrEmpty
  lineNumber := n
  severity := (given fields "severity").textOrEmpty
  message := (given fields "message").textOrEmpty
  category := (given fields "category").textOrEmpty
  snippet := given fields "snippet"
  isNew := readNewness (given fields "is_new")
  isSuppressed := (given fields "is_suppressed").truthy
  newReason := given fields "new_reason"
  findingId := if (given fields "finding_id").textOrEmpty = "" then
    defaultId (given fields "rule_id").textOrEmpty (givenPath fields).textOrEmpty n
    else (given fields "finding_id").textOrEmpty

theorem describes_atLine {n : Int} (h : IsLine (givenLine fields) n) :
    Describes fields (atLine fields n) :=
  ⟨h, rfl, rfl, rfl, fun _ => readNewness_eq_some_iff, rfl, rfl⟩

theorem ofFields_eq (fields : Dict Value) :
    ofFields fields = (readLine (givenLine fields)).map (atLine fields) := by
  unfold ofFields
  dsimp only
  split
  · rename_i hline
    change readLine (givenLine fields) = _ at hline
    rw [hline]
    rfl
  · rename_i hline
    change readLine (givenLine fields) = _ at hline
    rw [hline]
    rfl

theorem ofFields_eq_ok_iff : ofFields fields = .ok f ↔ Describes fields f := by
  rw [ofFields_eq]
  constructor
  · intro h
    obtain ⟨n, hn, rfl⟩ := exists_of_map_eq_ok h
    exact describes_atLine (readLine_eq_ok_iff.mp hn)
  · intro h
    have hf : atLine fields f.lineNumber = f := (describes_atLine h.line).unique h
    rw [readLine_of_isLine h.line, Except.map, hf]

theorem ofFields_eq_error_iff :
    ofFields fields = .error fault ↔ fault = .unbounded ∧ IsInfinite (givenLine fields) := by
  rw [ofFields_eq, ← readLine_eq_error_iff]
  cases readLine (givenLine fields) <;> simp [Except.map]

end Objects

end DiffReach.Finding
