import DiffReach.Proofs.Source.Extraction
import Mathlib.Data.List.Chain

namespace DiffReach.Source

section Entrypoints

variable {x : Extractor} {found extraction : Extraction} {texts : Dict String} {name : String}

theorem mem_foldl_insert {names known : List String} :
    name ∈ names.foldl (fun known name => Ascending.insert name known) known ↔
      name ∈ names ∨ name ∈ known := by
  induction names generalizing known with
  | nil => simp
  | cons first names ih => simp [ih, Ascending.mem_insert, or_left_comm, or_assoc]

theorem mem_entrypoints_extractFrom (h : x.extractFrom found texts = .ok extraction) :
    name ∈ extraction.entrypoints ↔ name ∈ found.entrypoints ∨
      ∃ file ∈ texts, ∃ names, x.entrypoints file.2 = .ok names ∧ name ∈ names := by
  induction texts generalizing found with
  | nil =>
    obtain rfl := Except.ok.inj h
    simp
  | cons file texts ih =>
    rw [Extractor.extractFrom] at h
    cases hnames : x.entrypoints file.2 with
    | error fault =>
      rw [hnames] at h
      cases h
    | ok names =>
      rw [hnames] at h
      have hadd : name ∈ (found.add file names).entrypoints ↔
          name ∈ names ∨ name ∈ found.entrypoints := mem_foldl_insert
      rw [ih h, hadd]
      simp [hnames, or_left_comm, or_assoc]

theorem mem_entrypoints_extract (h : x.extract texts = .ok extraction) :
    name ∈ extraction.entrypoints ↔
      ∃ file ∈ texts, ∃ names, x.entrypoints file.2 = .ok names ∧ name ∈ names := by
  have hfrom : name ∈ extraction.entrypoints ↔ name ∈ Extraction.empty.entrypoints ∨
      ∃ file ∈ texts, ∃ names, x.entrypoints file.2 = .ok names ∧ name ∈ names :=
    mem_entrypoints_extractFrom h
  simpa [Extraction.empty] using hfrom

theorem definedName?_of_decorated? {ls : List String} (h : decorated? ls = some name) :
    ∃ line ∈ ls, definedName? line = some name := by
  induction ls with
  | nil => cases h
  | cons line rest ih =>
    rw [decorated?] at h
    split at h
    · rename_i found hfound
      exact ⟨line, List.mem_cons_self, hfound.trans h⟩
    · split at h
      · obtain ⟨other, hother, hdefined⟩ := ih h
        exact ⟨other, List.mem_cons_of_mem _ hother, hdefined⟩
      · cases h

theorem definedName?_of_mem_entrypointsIn {lookahead : Int} {ls : List String}
    (h : name ∈ entrypointsIn lookahead ls) : ∃ line ∈ ls, definedName? line = some name := by
  induction ls with
  | nil => cases h
  | cons line rest ih =>
    have hrest (hmem : name ∈ entrypointsIn lookahead rest) :
        ∃ other ∈ line :: rest, definedName? other = some name := by
      obtain ⟨other, hother, hdefined⟩ := ih hmem
      exact ⟨other, List.mem_cons_of_mem _ hother, hdefined⟩
    rw [entrypointsIn] at h
    split at h
    · rcases List.mem_append.mp h with hnear | hlater
      · obtain ⟨other, hother, hdefined⟩ :=
          definedName?_of_decorated? (Option.mem_toList.mp hnear)
        exact ⟨other, List.mem_cons_of_mem _ (List.mem_of_mem_take hother), hdefined⟩
      · exact hrest hlater
    · exact hrest h

theorem mem_names_of_mem_entrypoints {text : String} {names : List String}
    (h : x.entrypoints text = .ok names) (hname : name ∈ names) :
    name ∈ (segments (Text.lines text)).map Prod.fst := by
  rw [Extractor.entrypoints] at h
  cases hlookahead : wholeLookahead x.lookahead (Text.lines text) with
  | error fault =>
    rw [hlookahead] at h
    cases h
  | ok lookahead =>
    rw [hlookahead] at h
    obtain rfl := Except.ok.inj h
    rw [names_segments, List.mem_filterMap]
    exact definedName?_of_mem_entrypointsIn hname

end Entrypoints

section Loss

variable {failed : String → Bool} {texts : Dict String} {name : String}

variable {x : Extractor} {found rest : Extraction}

end Loss

end DiffReach.Source

namespace DiffReach.CallGraph

structure IsRoute (g : CallGraph) (entrypoints : List String) (function : String)
    (names : List String) : Prop where
  calls : names.IsChain g.Calls
  starts : ∃ entry ∈ entrypoints, names.head? = some entry
  ends : names.getLast? = some function

theorem Reaches.getLast {g : CallGraph} {entrypoints : List String} {first : String}
    {names : List String} (hfirst : g.Reaches entrypoints first)
    (hchain : (first :: names).IsChain g.Calls) :
    ∃ last, (first :: names).getLast? = some last ∧ g.Reaches entrypoints last := by
  induction names generalizing first with
  | nil => exact ⟨first, rfl, hfirst⟩
  | cons second names ih =>
    obtain ⟨hcall, hrest⟩ := List.isChain_cons_cons.mp hchain
    obtain ⟨last, hlast, hreaches⟩ := ih (hfirst.snoc hcall) hrest
    exact ⟨last, by rw [List.getLast?_cons_cons]; exact hlast, hreaches⟩

theorem IsRoute.reaches {g : CallGraph} {entrypoints names : List String} {function : String}
    (h : g.IsRoute entrypoints function names) : g.Reaches entrypoints function := by
  obtain ⟨hcalls, ⟨entry, hentry, hhead⟩, hends⟩ := h
  cases names with
  | nil => cases hhead
  | cons first names =>
    obtain rfl := Option.some.inj hhead
    obtain ⟨last, hlast, hreaches⟩ := (reaches_entry hentry).getLast hcalls
    obtain rfl := Option.some.inj (hlast.symm.trans hends)
    exact hreaches

theorem IsRoute.transfer {g h : CallGraph} {starts others names : List String} {function : String}
    (hroute : g.IsRoute starts function names)
    (hcalls : ∀ name ∈ names, ∀ callee, g.Calls name callee → h.Calls name callee)
    (hstarts : ∀ name ∈ names, name ∈ starts → name ∈ others) :
    h.IsRoute others function names := by
  obtain ⟨hchain, ⟨entry, hentry, hhead⟩, hends⟩ := hroute
  refine ⟨?_, ⟨entry, hstarts entry (List.mem_of_mem_head? hhead) hentry, hhead⟩, hends⟩
  exact hchain.imp_of_mem_imp fun name callee hname _ hcall => hcalls name hname callee hcall

theorem IsRoute.exists_mem {g h : CallGraph} {starts others names : List String}
    {function : String} {lost : String → Prop}
    (hcalls : ∀ name, ¬ lost name → ∀ callee, g.Calls name callee → h.Calls name callee)
    (hstarts : ∀ name, ¬ lost name → name ∈ starts → name ∈ others)
    (hunreached : ¬ h.Reaches others function) (hroute : g.IsRoute starts function names) :
    ∃ name ∈ names, lost name := by
  by_contra hnone
  have hkept : ∀ name ∈ names, ¬ lost name := by
    intro name hname hlost
    exact hnone ⟨name, hname, hlost⟩
  have htransferred : h.IsRoute others function names :=
    hroute.transfer (fun name hname => hcalls name (hkept name hname))
      fun name hname => hstarts name (hkept name hname)
  exact hunreached htransferred.reaches

end DiffReach.CallGraph

namespace DiffReach.Source

variable {x : Extractor} {found rest : Extraction} {failed : String → Bool} {texts : Dict String}
  {function : String} {names : List String}

end DiffReach.Source
