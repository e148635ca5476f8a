import DiffReach.Proofs.CommandLine.Settings
import DiffReach.Proofs.Finding
import DiffReach.Proofs.Json.Document

namespace DiffReach.CommandLine

open Finding Json Shell

/-- The list of findings of a document. An object that does not name one has none. -/
inductive HoldsItems : Value → List Value → Prop
  | list (items : List Value) : HoldsItems (.list items) items
  | named {fields : Dict Value} {items : List Value} :
      fields.fetch "findings" = some (.list items) → HoldsItems (.object fields) items
  | unnamed {fields : Dict Value} : fields.fetch "findings" = none → HoldsItems (.object fields) []

def objectsOf (items : List Value) : List (Dict Value) :=
  items.filterMap fun
    | .object fields => some fields
    | _ => none

def LeadsTo (files : Files) (path text : String) : Prop :=
  ∃ name entry, placeOf files path = .ok (.found name entry) ∧ entry.text = .ok text

section Items

variable {document : Value} {items : List Value} {misuse : Misuse} {objects : List (Dict Value)}

theorem findingItems_of_holdsItems (h : HoldsItems document items) :
    findingItems document = .ok items := by
  cases h with
  | list => rfl
  | named hfetch =>
    simp only [findingItems, hfetch]
    rfl
  | unnamed hfetch =>
    simp only [findingItems, hfetch]
    rfl

theorem holdsItems_of_findingItems (h : findingItems document = .ok items) :
    HoldsItems document items := by
  unfold findingItems at h
  split at h
  · cases h
    exact .list items
  · split at h
    · rename_i hfetch
      cases h
      exact .unnamed hfetch
    · rename_i hfetch
      cases h
      exact .named hfetch
    · cases h
  · cases h

theorem eq_notFindings (h : findingItems document = .error misuse) : misuse = notFindings := by
  unfold findingItems at h
  split at h
  · cases h
  · split at h
    · cases h
    · cases h
    · cases h
      rfl
  · cases h
    rfl

theorem findingItems_of_forall_not (h : ∀ items, ¬ HoldsItems document items) :
    findingItems document = .error notFindings := by
  cases hitems : findingItems document with
  | ok items => exact absurd (holdsItems_of_findingItems hitems) (h items)
  | error misuse => rw [eq_notFindings hitems]

theorem mapM_ofValue (items : List Value) :
    (items.filter isObject).mapM Finding.ofValue = (objectsOf items).mapM ofFields := by
  induction items with
  | nil => rfl
  | cons v items ih =>
    cases v with
    | object fields =>
      have hkept : (Value.object fields :: items).filter isObject =
          .object fields :: items.filter isObject :=
        List.filter_cons_of_pos rfl
      have hobjects : objectsOf (.object fields :: items) = fields :: objectsOf items := rfl
      rw [hkept, hobjects, List.mapM_cons, List.mapM_cons, ih]
      rfl
    | _ => exact ih

theorem exists_mapM_ofFields (h : ∀ fields ∈ objects, ¬ IsInfinite (givenLine fields)) :
    ∃ findings, objects.mapM ofFields = .ok findings ∧ List.Forall₂ Describes objects findings := by
  induction objects with
  | nil => exact ⟨[], rfl, .nil⟩
  | cons fields objects ih =>
    obtain ⟨hfirst, hothers⟩ := List.forall_mem_cons.mp h
    obtain ⟨findings, hmapM, hdescribes⟩ := ih hothers
    obtain ⟨n, hn⟩ := exists_isLine hfirst
    have hread := ofFields_eq_ok_iff.mpr (describes_atLine hn)
    refine ⟨atLine fields n :: findings, ?_, .cons (describes_atLine hn) hdescribes⟩
    rw [List.mapM_cons, hread, hmapM]
    rfl

theorem mapM_ofFields_eq_unbounded (h : ∃ fields ∈ objects, IsInfinite (givenLine fields)) :
    objects.mapM ofFields = .error .unbounded := by
  induction objects with
  | nil =>
    obtain ⟨fields, hmem, -⟩ := h
    cases hmem
  | cons fields objects ih =>
    rw [List.mapM_cons]
    by_cases hfirst : IsInfinite (givenLine fields)
    · rw [ofFields_eq_error_iff.mpr ⟨rfl, hfirst⟩]
      rfl
    · obtain ⟨n, hn⟩ := exists_isLine hfirst
      rw [ofFields_eq_ok_iff.mpr (describes_atLine hn), ih ?_]
      · rfl
      · obtain ⟨other, hmem, hinf⟩ := h
        rcases List.mem_cons.mp hmem with rfl | hmem
        · exact absurd hinf hfirst
        · exact ⟨other, hmem, hinf⟩

end Items

section Texts

theorem does_settle {α : Type} (a : α) (console : Console) :
    Does (settle (.ok a)) console (.ok a) console :=
  does_session (fun _ _ => rfl) console

variable {path text : String} {bounds : Bounds} {document : Value} {items : List Value}

theorem readFindings_of_holdsItems (hdocument : IsDocument bounds text.toList document)
    (hitems : HoldsItems document items) (path : String) :
    readFindings path text bounds =
      ((objectsOf items).mapM ofFields).mapError fun fault => .stopped (.fault fault) := by
  have hread := readWith_eq_ok_iff.mpr hdocument
  simp only [readFindings, hread, findingItems_of_holdsItems hitems, mapM_ofValue]
  cases (objectsOf items).mapM ofFields <;> rfl

theorem readFindings_of_not_holdsItems (hdocument : IsDocument bounds text.toList document)
    (hitems : ∀ items, ¬ HoldsItems document items) (path : String) :
    readFindings path text bounds = .error (.misuse notFindings) := by
  have hread := readWith_eq_ok_iff.mpr hdocument
  simp only [readFindings, hread, findingItems_of_forall_not hitems]

theorem readFindings_of_not_isDocument
    (h : ∀ document, ¬ IsDocument bounds text.toList document) (path : String) :
    readFindings path text bounds = .error (.misuse (unreadFindings path)) ∧
        (∀ wider document, ¬ IsDocument wider text.toList document) ∨
      readFindings path text bounds = .error (.stopped (.fault .tooDeep)) ∧
        bounds.maxDepth < text.toList.countP isOpening ∨
      readFindings path text bounds = .error (.stopped (.fault .tooManyDigits)) ∧
        ∃ run, run <:+: text.toList ∧ (∀ c ∈ run, c.isDigit = true) ∧
          bounds.maxDigits < run.length := by
  cases hread : readWith bounds text with
  | ok document => exact absurd (readWith_eq_ok_iff.mp hread) (h document)
  | error e =>
    have hfails := (readWith_answers bounds text).2 e hread
    cases e with
    | malformed =>
      refine Or.inl ⟨?_, not_isDocument_of_malformed hread⟩
      simp only [readFindings, hread]
    | tooDeep =>
      refine Or.inr (Or.inl ⟨?_, hfails⟩)
      simp only [readFindings, hread]
    | tooManyDigits =>
      refine Or.inr (Or.inr ⟨?_, hfails⟩)
      simp only [readFindings, hread]

theorem does_loadFindings {console : Console} (h : LeadsTo console.files path text) :
    Does (loadFindings path bounds) console (readFindings path text bounds) console := by
  obtain ⟨name, entry, hplace, htext⟩ := h
  refine (does_files console).bind ?_
  rw [hplace]
  refine (does_settle (Place.found name entry) console).bind ?_
  simp only [htext]
  refine (does_settle text console).bind ?_
  cases readFindings path text bounds with
  | ok findings => exact does_pure findings console
  | error ending => exact does_finish ending console

end Texts

section Samples

variable {spelling : List Char} {v : Value}

/-- A list of an object with a line, which is spelled in the given way, and a number. -/
def lineText (spelling : List Char) : String :=
  String.ofList ('[' :: '\x7b' :: '"' :: 'l' :: 'i' :: 'n' :: 'e' :: '"' :: ':' ::
    (spelling ++ ['\x7d', ',', '3', ']']))

def lineConsole (spelling : List Char) : Console :=
  ⟨[("f.json", .ofText (lineText spelling))], ""⟩

theorem isDocument_lineText (h : Spells Numeral.maxDigits 978 spelling (.value v)) :
    IsDocument readerBounds (lineText spelling).toList
      (.list [.object [("line", v)], .int 3]) := by
  have hgap : IsGap [] := List.forall_mem_nil _
  have hname : SpellsRest [] ['l', 'i', 'n', 'e'] (['l', 'i', 'n', 'e'].map Char.toNat) :=
    spellsRest_char (by simp) []
  have hline : Text.ofCodes (['l', 'i', 'n', 'e'].map Char.toNat) = "line" := ofCodes_toNat _
  have hobject : Spells Numeral.maxDigits (978 + 1) _
      (.value (.object (Dict.gather [(Text.ofCodes (['l', 'i', 'n', 'e'].map Char.toNat), v)]))) :=
    .object hgap (.lastField hname hgap hgap h hgap)
  rw [hline] at hobject
  have hthree : Spells Numeral.maxDigits (978 + 1) ['3'] (.value (.int 3)) :=
    .unsigned (.int (.run (by decide) (List.forall_mem_singleton.mpr rfl)) (by decide))
  have hlist := Spells.list hgap (.nextItem hobject hgap hgap (.lastItem hthree hgap))
  refine ⟨[], _, [], ?_, hgap, hgap, hlist⟩
  simp [lineText]

theorem unifyNewlines_eq_self {cs : List Char} (h : '\r' ∉ cs) : Text.unifyNewlines cs = cs := by
  fun_induction Text.unifyNewlines cs with
  | case1 => rfl
  | case2 cs => exact absurd List.mem_cons_self h
  | case3 c cs _ ih =>
    obtain ⟨hc, hcs⟩ := not_or.mp (List.mem_cons.not.mp h)
    rw [if_neg (Ne.symm hc), ih hcs]

theorem leadsTo_lineText (spelling : List Char) (h : '\r' ∉ spelling) :
    LeadsTo (lineConsole spelling).files "f.json" (lineText spelling) := by
  have hplain : '\r' ∉ (lineText spelling).toList := by simpa [lineText] using h
  refine ⟨"f.json", .ofText (lineText spelling), rfl, ?_⟩
  rw [Entry.text_ofText, unifyNewlines_eq_self hplain, String.ofList_toList]

def quotedWord : List Char := ['"', 'x', '"']

theorem spells_quotedWord (room : Nat) :
    Spells Numeral.maxDigits room quotedWord (.value (.str "x")) := by
  have hbody : SpellsRest [] ['x'] (['x'].map Char.toNat) := spellsRest_char (by simp) []
  have hx : Value.ofCodes (['x'].map Char.toNat) = .str "x" := value_ofCodes_toNat _
  rw [← hx]
  exact .string hbody

def beyondFinite : List Char := ['1', 'e', '9', '9', '9']

theorem rounds_beyondFinite :
    Binary64.Rounds false (Binary64.decimal [1] 999) (.infinite false) := by
  apply Binary64.Rounds.infinite
  have hpower : (10 : ℚ) ^ (400 : Int) ≤ 10 ^ (999 : Int) :=
    zpow_le_zpow_right₀ (by norm_num) (by norm_num)
  have hdecimal : Binary64.decimal [1] 999 = 10 ^ (999 : Int) := by
    simp [Binary64.decimal]
  rw [hdecimal]
  exact Binary64.bound_le_ten_zpow.trans hpower

theorem spells_beyondFinite (room : Nat) :
    Spells Numeral.maxDigits room beyondFinite (.value (.float (.infinite false))) := by
  have hone : IsPlainRun ['1'] := .run (by decide) (List.forall_mem_singleton.mpr rfl)
  have hmarked : SpellsExponent ('e' :: ([] ++ ['9', '9', '9'])) _ :=
    .marked (Or.inl rfl) .absent (by simp) (by simp)
  refine .unsigned (.real hone .absent hmarked (by simp) ?_)
  have hdigits : digitValues (['1'] ++ []) = [1] := rfl
  have hpower : Nat.ofDigits 10 (digitValues ['9', '9', '9']).reverse = 999 := by
    simp [digitValues, Nat.ofDigits]
  rw [hdigits, hpower]
  exact rounds_beyondFinite

end Samples

theorem loadFindings_outcomes {console : Console} {path text : String}
    (h : LeadsTo console.files path text) (bounds : Bounds) : ∃ result,
      Does (loadFindings path bounds) console result console ∧
      (∀ document, IsDocument bounds text.toList document →
        (∀ items, HoldsItems document items →
          ((∀ fields ∈ objectsOf items, ¬ IsInfinite (givenLine fields)) →
            ∃ findings, result = .ok findings ∧
              List.Forall₂ Describes (objectsOf items) findings) ∧
          ((∃ fields ∈ objectsOf items, IsInfinite (givenLine fields)) →
            result = .error (.stopped (.fault .unbounded)))) ∧
        ((∀ items, ¬ HoldsItems document items) → result = .error (.misuse notFindings))) ∧
      ((∀ document, ¬ IsDocument bounds text.toList document) →
        result = .error (.misuse (unreadFindings path)) ∧
            (∀ wider document, ¬ IsDocument wider text.toList document) ∨
          result = .error (.stopped (.fault .tooDeep)) ∧
            bounds.maxDepth < text.toList.countP isOpening ∨
          result = .error (.stopped (.fault .tooManyDigits)) ∧
            ∃ run, run <:+: text.toList ∧ (∀ c ∈ run, c.isDigit = true) ∧
              bounds.maxDigits < run.length) := by
  refine ⟨readFindings path text bounds, does_loadFindings h,
    fun document hdocument => ⟨?_, ?_⟩, ?_⟩
  · intro items hitems
    rw [readFindings_of_holdsItems hdocument hitems path]
    constructor
    · intro hfinite
      obtain ⟨findings, hmapM, hdescribes⟩ := exists_mapM_ofFields hfinite
      exact ⟨findings, by rw [hmapM]; rfl, hdescribes⟩
    · intro hinfinite
      rw [mapM_ofFields_eq_unbounded hinfinite]
      rfl
  · exact fun hitems => readFindings_of_not_holdsItems hdocument hitems path
  · exact fun hnone => readFindings_of_not_isDocument hnone path

/-- The line is no number, and the other item is no object. -/
theorem loadFindings_outcomes_word :
    LeadsTo (lineConsole quotedWord).files "f.json" (lineText quotedWord) ∧
    ∃ findings, Does (loadFindings "f.json") (lineConsole quotedWord) (.ok findings)
        (lineConsole quotedWord) ∧ findings.map Finding.lineNumber = [1] := by
  have hleads := leadsTo_lineText quotedWord (by decide)
  have hfinite : ∀ fields ∈ objectsOf [.object [("line", .str "x")], .int 3],
      ¬ IsInfinite (givenLine fields) := by
    intro fields hfields
    obtain rfl := List.mem_singleton.mp hfields
    rintro ⟨negative, hline⟩
    cases hline
  refine ⟨hleads, ?_⟩
  obtain ⟨result, hdoes, hdocuments, -⟩ := loadFindings_outcomes hleads readerBounds
  have hitems := (hdocuments _ (isDocument_lineText (spells_quotedWord 978))).1 _ (.list _)
  obtain ⟨findings, rfl, hdescribes⟩ := hitems.1 hfinite
  refine ⟨findings, hdoes, ?_⟩
  cases hdescribes with
  | cons hfirst hothers =>
    cases hothers
    have hline := readLine_of_isLine hfirst.line
    have hread : readLine (.str "x") = .ok 1 := by rfl
    rw [List.map_singleton, Except.ok.inj (hread.symm.trans hline)]

/-- One infinite line stops the command, whatever the other items are. -/
theorem loadFindings_beyondFinite :
    Does (loadFindings "f.json") (lineConsole beyondFinite)
      (.error (.stopped (.fault .unbounded))) (lineConsole beyondFinite) := by
  have hdoes : Does (loadFindings "f.json" readerBounds) (lineConsole beyondFinite) _ _ :=
    does_loadFindings (leadsTo_lineText beyondFinite (by decide))
  rw [readFindings_of_holdsItems (isDocument_lineText (spells_beyondFinite 978)) (.list _),
    mapM_ofFields_eq_unbounded] at hdoes
  · exact hdoes
  · exact ⟨_, List.mem_singleton_self _, false, rfl⟩

end DiffReach.CommandLine
