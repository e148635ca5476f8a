import DiffReach.Proofs.Source.DefinitionLine
import DiffReach.Source.Extraction

namespace DiffReach.Source

open Text

structure Binding where
  decorator : Nat
  definition : Nat
  name : String

namespace Binding

def shift (b : Binding) : Binding :=
  { b with decorator := b.decorator + 1, definition := b.definition + 1 }

end Binding

/-- A decorator binds the first function below it within a window; lines are counted from zero. -/
structure Binds (window : Nat) (ls : List String) (b : Binding) : Prop where
  decorates : ∃ line, ls[b.decorator]? = some line ∧ isRouteDecorator line = true
  below : b.decorator < b.definition
  passes : ∀ i, b.decorator < i → i < b.definition →
    ∃ line, ls[i]? = some line ∧ isPassedOver line = true
  ends : ∃ line, ls[b.definition]? = some line ∧ isPassedOver line = false ∧
    definedName? line = some b.name
  near : b.definition ≤ b.decorator + window

/-- The lines right above a line that are blank or decorators, the nearest first. -/
def stackAbove (ls : List String) (i : Nat) : List String :=
  (ls.take i).reverse.takeWhile isPassedOver

theorem head?_trim {margin rest : List Char} {c : Char} (hmargin : ∀ d ∈ margin, isBlank d = true)
    (hc : isBlank c = false) : (trim (margin ++ c :: rest)).head? = some c := by
  have hleft : (margin ++ c :: rest).dropWhile isBlank = c :: rest := by
    rw [List.dropWhile_append_of_pos hmargin, List.dropWhile_cons_of_neg (by simp [hc])]
  -- dropping blanks at the end stops at the character at the latest
  have hright : ∃ kept, (rest.reverse ++ [c]).dropWhile isBlank = kept ++ [c] := by
    rw [List.dropWhile_append]
    split
    · exact ⟨[], by simp [hc]⟩
    · exact ⟨_, rfl⟩
  obtain ⟨kept, hkept⟩ := hright
  rw [trim, dropBoth, hleft, List.reverse_cons, hkept]
  simp

theorem IsOpening.exists_cons {opening : List Char} (h : IsOpening opening) (cs : List Char) :
    ∃ c rest, opening ++ ("def".toList ++ cs) = c :: rest ∧ isBlank c = false ∧ c ≠ '@' := by
  cases h with
  | plain => exact ⟨'d', _, rfl, by decide, by decide⟩
  | async gap _ => exact ⟨'a', _, rfl, by decide, by decide⟩

theorem isPassedOver_of_definedName? {line name : String} (h : definedName? line = some name) :
    isPassedOver line = false := by
  obtain ⟨margin, opening, gap, slot, rest, hline, hmargin, hopening, -⟩ :=
    isDefinition_of_definedName? h
  obtain ⟨c, cs, hcons, hblank, hat⟩ :=
    hopening.exists_cons (gap ++ (name.toList ++ (slot ++ '(' :: rest)))
  have hhead : (trim line.toList).head? = some c := by
    rw [hline, hcons]
    exact head?_trim hmargin hblank
  have hne : trim line.toList ≠ [] := by
    intro hnil
    simp [hnil] at hhead
  simp [isPassedOver, hhead, hne, hat]

theorem isPassedOver_of_isRouteDecorator {line : String} (h : isRouteDecorator line = true) :
    isPassedOver line = true := by
  simp only [isRouteDecorator, Bool.and_eq_true] at h
  simp [isPassedOver, h.1]

theorem decorated?_eq (ls : List String) :
    decorated? ls = (ls.find? fun line => !isPassedOver line).bind definedName? := by
  induction ls with
  | nil => rfl
  | cons line rest ih =>
    rw [decorated?]
    cases hd : definedName? line with
    | some name => simp [isPassedOver_of_definedName? hd, hd]
    | none =>
      cases hp : isPassedOver line with
      | true => simp [hp, ih]
      | false => simp [hp, hd]

def bindingAbove? (ls : List String) : Option Binding :=
  (ls.findIdx? fun line => !isPassedOver line).bind fun i =>
    (ls[i]?.bind definedName?).map fun name => ⟨0, i + 1, name⟩

def bindings (window : Nat) : List String → List Binding
  | [] => []
  | line :: rest =>
      (if isRouteDecorator line then bindingAbove? (rest.take window) else none).toList ++
        (bindings window rest).map Binding.shift

section Bindings

variable {window : Nat} {ls rest : List String} {line : String} {b : Binding}

theorem bindingAbove?_eq_some_iff : bindingAbove? ls = some b ↔ b.decorator = 0 ∧
    ∃ i, b.definition = i + 1 ∧
      (∃ line, ls[i]? = some line ∧ isPassedOver line = false ∧ definedName? line = some b.name) ∧
      ∀ j < i, ∃ line, ls[j]? = some line ∧ isPassedOver line = true := by
  simp only [bindingAbove?, Option.bind_eq_some_iff, Option.map_eq_some_iff,
    List.findIdx?_eq_some_iff_getElem]
  constructor
  · rintro ⟨i, ⟨hi, hends, hpasses⟩, name, ⟨line, hline, hname⟩, rfl⟩
    obtain ⟨_, rfl⟩ := List.getElem?_eq_some_iff.mp hline
    refine ⟨rfl, i, rfl, ⟨ls[i], hline, by simpa using hends, hname⟩, fun j hj => ?_⟩
    exact ⟨ls[j], List.getElem?_eq_getElem _, by simpa using hpasses j hj⟩
  · obtain ⟨decorator, definition, name⟩ := b
    rintro ⟨rfl, i, rfl, ⟨line, hline, hends, hname⟩, hpasses⟩
    obtain ⟨hi, rfl⟩ := List.getElem?_eq_some_iff.mp hline
    refine ⟨i, ⟨hi, by simp [hends], fun j hj => ?_⟩, name, ⟨ls[i], hline, hname⟩, rfl⟩
    obtain ⟨other, hother, hpassed⟩ := hpasses j hj
    obtain ⟨_, rfl⟩ := List.getElem?_eq_some_iff.mp hother
    simp [hpassed]

theorem name_bindingAbove? (ls : List String) :
    (bindingAbove? ls).map Binding.name = decorated? ls := by
  rw [decorated?_eq, List.find?_eq_bind_findIdx?_getElem?, bindingAbove?]
  cases ls.findIdx? fun line => !isPassedOver line with
  | none => rfl
  | some i => simp [Function.comp_def]

theorem names_bindings (window : Nat) (ls : List String) :
    (bindings window ls).map Binding.name = entrypointsIn window ls := by
  induction ls with
  | nil => rfl
  | cons line rest ih =>
    have hshift : Binding.name ∘ Binding.shift = Binding.name := rfl
    rw [bindings, entrypointsIn, List.map_append, List.map_map, hshift, ih, Int.toNat_natCast,
      ← name_bindingAbove?]
    split
    · cases bindingAbove? (rest.take window) <;> rfl
    · rfl

theorem pairwise_bindings (window : Nat) (ls : List String) :
    (bindings window ls).Pairwise fun a b => a.decorator < b.decorator := by
  induction ls with
  | nil => exact List.Pairwise.nil
  | cons line rest ih =>
    rw [bindings, List.pairwise_append, List.pairwise_map]
    refine ⟨?_, ih.imp fun hlt => Nat.succ_lt_succ hlt, ?_⟩
    · split
      · cases bindingAbove? (rest.take window) <;> simp
      · exact List.Pairwise.nil
    · intro a ha b hb
      rw [Option.mem_toList, Option.ite_none_right_eq_some] at ha
      obtain ⟨hzero, -⟩ := bindingAbove?_eq_some_iff.mp ha.2
      obtain ⟨c, -, rfl⟩ := List.mem_map.mp hb
      rw [hzero]
      exact Nat.succ_pos _

theorem bindingAbove?_take_eq_some_iff : bindingAbove? (rest.take window) = some b ↔
    b.decorator = 0 ∧ ∃ i < window, b.definition = i + 1 ∧
      (∃ line, rest[i]? = some line ∧ isPassedOver line = false ∧
        definedName? line = some b.name) ∧
      ∀ j < i, ∃ line, rest[j]? = some line ∧ isPassedOver line = true := by
  rw [bindingAbove?_eq_some_iff]
  refine and_congr_right fun _ => exists_congr fun i => ?_
  simp only [List.getElem?_take, Option.ite_none_right_eq_some]
  constructor
  · rintro ⟨hdef, ⟨line, ⟨hi, hline⟩, hends⟩, hpasses⟩
    refine ⟨hi, hdef, ⟨line, hline, hends⟩, fun j hj => ?_⟩
    obtain ⟨other, ⟨-, hother⟩, hpassed⟩ := hpasses j hj
    exact ⟨other, hother, hpassed⟩
  · rintro ⟨hi, hdef, ⟨line, hline, hends⟩, hpasses⟩
    refine ⟨hdef, ⟨line, ⟨hi, hline⟩, hends⟩, fun j hj => ?_⟩
    obtain ⟨other, hother, hpassed⟩ := hpasses j hj
    exact ⟨other, ⟨by omega, hother⟩, hpassed⟩

theorem binds_shift_iff : Binds window (line :: rest) b.shift ↔ Binds window rest b := by
  constructor
  · rintro ⟨hdecorates, hbelow, hpasses, hends, hnear⟩
    refine ⟨hdecorates, Nat.lt_of_succ_lt_succ hbelow, fun i hlow hhigh => ?_, hends, ?_⟩
    · exact hpasses (i + 1) (Nat.succ_lt_succ hlow) (Nat.succ_lt_succ hhigh)
    · simp only [Binding.shift] at hnear
      omega
  · rintro ⟨hdecorates, hbelow, hpasses, hends, hnear⟩
    refine ⟨hdecorates, Nat.succ_lt_succ hbelow, fun i hlow hhigh => ?_, hends, ?_⟩
    · simp only [Binding.shift] at hlow hhigh
      obtain ⟨i, rfl⟩ : ∃ k, i = k + 1 := ⟨i - 1, by omega⟩
      exact hpasses i (Nat.lt_of_succ_lt_succ hlow) (Nat.lt_of_succ_lt_succ hhigh)
    · simp only [Binding.shift]
      omega

theorem binds_first_iff {i : Nat} {name : String} : Binds window (line :: rest) ⟨0, i + 1, name⟩ ↔
    isRouteDecorator line = true ∧ bindingAbove? (rest.take window) = some ⟨0, i + 1, name⟩ := by
  rw [bindingAbove?_take_eq_some_iff]
  constructor
  · rintro ⟨⟨first, hfirst, hdecorates⟩, -, hpasses, hends, hnear⟩
    obtain rfl : line = first := Option.some.inj hfirst
    have hi : i < window := by simpa [Nat.succ_le_iff] using hnear
    refine ⟨hdecorates, rfl, i, hi, rfl, hends, fun j hj => ?_⟩
    exact hpasses (j + 1) (Nat.succ_pos j) (Nat.succ_lt_succ hj)
  · rintro ⟨hline, -, k, hk, hdef, hends, hpasses⟩
    obtain rfl : i = k := Nat.succ.inj hdef
    have hnear : i + 1 ≤ 0 + window := by omega
    refine ⟨⟨line, rfl, hline⟩, Nat.succ_pos i, fun j hlow hhigh => ?_, hends, hnear⟩
    obtain ⟨j, rfl⟩ : ∃ m, j = m + 1 := ⟨j - 1, (Nat.succ_pred (Nat.ne_zero_of_lt hlow)).symm⟩
    exact hpasses j (Nat.lt_of_succ_lt_succ hhigh)

theorem binds_cons_iff : Binds window (line :: rest) b ↔
    (isRouteDecorator line = true ∧ bindingAbove? (rest.take window) = some b) ∨
      ∃ c, Binds window rest c ∧ c.shift = b := by
  constructor
  · intro h
    obtain ⟨decorator, definition, name⟩ := b
    obtain ⟨i, rfl⟩ : ∃ i, definition = i + 1 :=
      ⟨definition - 1, (Nat.succ_pred (Nat.ne_zero_of_lt h.below)).symm⟩
    cases decorator with
    | zero => exact Or.inl (binds_first_iff.mp h)
    | succ d => exact Or.inr ⟨⟨d, i, name⟩, binds_shift_iff.mp h, rfl⟩
  · rintro (⟨hline, habove⟩ | ⟨c, hbinds, rfl⟩)
    · obtain ⟨hzero, i, -, hdef, -⟩ := bindingAbove?_take_eq_some_iff.mp habove
      obtain ⟨decorator, definition, name⟩ := b
      obtain rfl : decorator = 0 := hzero
      obtain rfl : definition = i + 1 := hdef
      exact binds_first_iff.mpr ⟨hline, habove⟩
    · exact binds_shift_iff.mpr hbinds

theorem mem_bindings : b ∈ bindings window ls ↔ Binds window ls b := by
  induction ls generalizing b with
  | nil =>
    refine iff_of_false List.not_mem_nil ?_
    rintro ⟨⟨line, hline, -⟩, -⟩
    cases hline
  | cons line rest ih =>
    rw [bindings, List.mem_append, Option.mem_toList, Option.ite_none_right_eq_some, List.mem_map,
      binds_cons_iff]
    simp only [ih]

theorem stackAbove_cons (line : String) {i : Nat} (hi : i ≤ rest.length) :
    stackAbove (line :: rest) (i + 1) = stackAbove rest i ++
      if (stackAbove rest i).length = i then [line].takeWhile isPassedOver else [] := by
  have hlength : (rest.take i).reverse.length = i := by simp [hi]
  have hstack : (rest.take i).reverse.takeWhile isPassedOver = stackAbove rest i := rfl
  rw [stackAbove, List.take_succ_cons, List.reverse_cons, List.takeWhile_append, hlength, hstack]
  split
  · rename_i hwhole
    rw [← hstack, (List.takeWhile_prefix _).eq_of_length (hwhole.trans hlength.symm)]
  · rw [List.append_nil]

theorem length_stackAbove_eq_iff {i : Nat} (hi : i ≤ ls.length) :
    (stackAbove ls i).length = i ↔
      ∀ j < i, ∃ line, ls[j]? = some line ∧ isPassedOver line = true := by
  have hlength : (ls.take i).reverse.length = i := by simp [hi]
  have hall : (stackAbove ls i).length = i ↔
      ∀ line ∈ (ls.take i).reverse, isPassedOver line = true := by
    rw [← List.takeWhile_eq_self_iff]
    constructor
    · intro h
      exact (List.takeWhile_prefix isPassedOver).eq_of_length (h.trans hlength.symm)
    · intro h
      rw [stackAbove, h, hlength]
  rw [hall]
  constructor
  · intro h j hj
    have hlt : j < ls.length := by omega
    refine ⟨ls[j], List.getElem?_eq_getElem hlt, h _ ?_⟩
    rw [List.mem_reverse, List.mem_take_iff_getElem]
    exact ⟨j, by omega, rfl⟩
  · intro h line hline
    rw [List.mem_reverse, List.mem_take_iff_getElem] at hline
    obtain ⟨j, hj, rfl⟩ := hline
    obtain ⟨line, hline, hpassed⟩ := h j (by omega)
    obtain ⟨_, rfl⟩ := List.getElem?_eq_some_iff.mp hline
    exact hpassed

theorem countP_bindingAbove? {i : Nat} {name : String} (hline : rest[i]? = some line)
    (hname : definedName? line = some name) :
    (bindingAbove? (rest.take window)).toList.countP (fun b => b.definition = i + 1) =
      if i < window ∧ (stackAbove rest i).length = i then 1 else 0 := by
  obtain ⟨hi, -⟩ := List.getElem?_eq_some_iff.mp hline
  have hstack := length_stackAbove_eq_iff (Nat.le_of_lt hi)
  by_cases hfree : i < window ∧ (stackAbove rest i).length = i
  · have habove : bindingAbove? (rest.take window) = some ⟨0, i + 1, name⟩ :=
      bindingAbove?_take_eq_some_iff.mpr ⟨rfl, i, hfree.1, rfl,
        ⟨line, hline, isPassedOver_of_definedName? hname, hname⟩, hstack.mp hfree.2⟩
    simp [habove, hfree]
  · rw [if_neg hfree, List.countP_eq_zero]
    intro b hb hdef
    obtain ⟨-, k, hk, hdef', -, hpasses⟩ :=
      bindingAbove?_take_eq_some_iff.mp (Option.mem_toList.mp hb)
    obtain rfl : k = i := by simpa [hdef'] using hdef
    exact hfree ⟨hk, hstack.mpr hpasses⟩

theorem countP_take_line (line : String) (n : Nat) :
    (([line].takeWhile isPassedOver).take n).countP isRouteDecorator =
      if isRouteDecorator line = true ∧ 0 < n then 1 else 0 := by
  by_cases hline : isRouteDecorator line = true
  · have hpassed := isPassedOver_of_isRouteDecorator hline
    cases n <;> simp [hline, hpassed]
  · have hnone : ∀ other ∈ ([line].takeWhile isPassedOver).take n,
        ¬ isRouteDecorator other = true := by
      intro other hother
      have hmem := List.mem_of_mem_take hother
      rwa [List.mem_singleton.mp ((List.takeWhile_sublist _).mem hmem)]
    rw [if_neg fun h => hline h.1, List.countP_eq_zero]
    exact hnone

theorem countP_bindings {i : Nat} {name : String} (hline : ls[i]? = some line)
    (hname : definedName? line = some name) :
    (bindings window ls).countP (fun b => b.definition = i) =
      ((stackAbove ls i).take window).countP isRouteDecorator := by
  induction ls generalizing i with
  | nil => cases hline
  | cons first rest ih =>
    cases i with
    | zero =>
      have hnone : ∀ b ∈ bindings window (first :: rest), ¬ b.definition = 0 := by
        intro b hb
        exact Nat.ne_zero_of_lt (mem_bindings.mp hb).below
      simpa [stackAbove, List.countP_eq_zero] using hnone
    | succ i =>
      replace hline : rest[i]? = some line := hline
      obtain ⟨hi, -⟩ := List.getElem?_eq_some_iff.mp hline
      have hshift : ((bindings window rest).map Binding.shift).countP
          (fun b => b.definition = i + 1) =
            ((stackAbove rest i).take window).countP isRouteDecorator := by
        rw [← ih hline, List.countP_map]
        simp [Function.comp_def, Binding.shift]
      rw [bindings, List.countP_append, hshift, stackAbove_cons first (Nat.le_of_lt hi),
        List.take_append, List.countP_append, Nat.add_comm]
      congr 1
      -- one more line on top of the stack counts if the stack reaches up to it
      by_cases hwhole : (stackAbove rest i).length = i
      · rw [if_pos hwhole, hwhole, countP_take_line]
        by_cases hfirst : isRouteDecorator first = true
        · rw [if_pos hfirst, countP_bindingAbove? hline hname]
          simp only [hfirst, hwhole, and_true, true_and, Nat.sub_pos_iff_lt]
        · simp [hfirst]
      · by_cases hfirst : isRouteDecorator first = true
        · simp [hfirst, countP_bindingAbove? hline hname, hwhole]
        · simp [hfirst, hwhole]

end Bindings

theorem entrypoints_exact (window : Nat) (stoplist : List String) (text : String) :
    ∃ found : List Binding,
      Extractor.entrypoints ⟨.int window, stoplist⟩ text = .ok (found.map Binding.name) ∧
      (found.Pairwise fun a b => a.decorator < b.decorator) ∧
      (∀ b, b ∈ found ↔ Binds window (lines text) b) ∧
      (∀ line name, definedName? line = some name → isPassedOver line = false) ∧
      ∀ i line name, (lines text)[i]? = some line → definedName? line = some name →
        found.countP (fun b => b.definition = i) =
          ((stackAbove (lines text) i).take window).countP isRouteDecorator := by
  refine ⟨bindings window (lines text), ?_, pairwise_bindings window _, fun b => mem_bindings,
    fun line name => isPassedOver_of_definedName?, fun i line name => countP_bindings⟩
  rw [names_bindings]
  rfl

/-- Two routes above the first function, one of them too far away, a route that code parts from the
second function, and one right above the third. -/
def decoratedText : String :=
  "@app.get('/a')\n\n@cached\n@app.POST('/b')\ndef both():\n@router.get('/c')\nx = 1\n" ++
    "def plain():\n @bp.route('/d')\n\t\nasync def last (x):"

theorem entrypoints_exact_decorated : ∃ found : List Binding,
    Extractor.entrypoints ⟨.int 3, []⟩ decoratedText = .ok (found.map Binding.name) ∧
    found.map Binding.name = ["both", "last"] ∧ ⟨3, 4, "both"⟩ ∈ found ∧
    isPassedOver "def both():" = false ∧
    found.countP (fun b => b.definition = 4) = 1 ∧
    found.countP (fun b => b.definition = 7) = 0 := by
  obtain ⟨found, hrun, -, hmem, hpassed, hcount⟩ := entrypoints_exact 3 [] decoratedText
  have hnames : Extractor.entrypoints ⟨.int 3, []⟩ decoratedText = .ok ["both", "last"] := by
    decide +kernel
  have hlines : lines decoratedText = ["@app.get('/a')", "", "@cached", "@app.POST('/b')",
      "def both():", "@router.get('/c')", "x = 1", "def plain():", " @bp.route('/d')", "\t",
      "async def last (x):"] := by decide +kernel
  have hboth : definedName? "def both():" = some "both" := by decide +kernel
  have hplain : definedName? "def plain():" = some "plain" := by decide +kernel
  have hbinds : Binds 3 (lines decoratedText) ⟨3, 4, "both"⟩ := by
    rw [hlines]
    refine ⟨⟨"@app.POST('/b')", rfl, by decide +kernel⟩, by decide, ?_,
      ⟨"def both():", rfl, hpassed _ _ hboth, hboth⟩, by decide⟩
    intro i hlow hhigh
    dsimp only at hlow hhigh
    omega
  refine ⟨found, hrun, Except.ok.inj (hrun.symm.trans hnames), (hmem _).mpr hbinds,
    hpassed _ _ hboth, ?_, ?_⟩
  · rw [hcount 4 _ _ (by rw [hlines]; rfl) hboth, hlines]
    decide +kernel
  · rw [hcount 7 _ _ (by rw [hlines]; rfl) hplain, hlines]
    decide +kernel

end DiffReach.Source
