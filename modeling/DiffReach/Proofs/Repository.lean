import DiffReach.Proofs.Text.Character
import DiffReach.Repository

namespace DiffReach

namespace Text

theorem afterWord?_eq_some_iff {word cs rest : List Char} : afterWord? word cs = some rest ↔
    ∃ head, cs = head ++ rest ∧ afterWord? word head = some [] := by
  induction word generalizing cs with
  | nil =>
    constructor
    · rintro h
      exact ⟨[], (Option.some.inj h), rfl⟩
    · rintro ⟨head, rfl, h⟩
      rw [Option.some.inj h]
      rfl
  | cons w word ih =>
    constructor
    · intro h
      cases cs with
      | nil => cases h
      | cons c cs =>
        rw [afterWord?] at h
        split at h
        · rename_i hsame
          obtain ⟨head, rfl, hhead⟩ := ih.mp h
          exact ⟨c :: head, rfl, by rw [afterWord?, if_pos hsame, hhead]⟩
        · cases h
    · rintro ⟨head, rfl, h⟩
      cases head with
      | nil => cases h
      | cons c head =>
        rw [afterWord?] at h
        split at h
        · rename_i hsame
          rw [List.cons_append, afterWord?, if_pos hsame]
          exact ih.mpr ⟨head, rfl, h⟩
        · cases h

theorem afterWord?_append (word more cs : List Char) :
    afterWord? (word ++ more) cs = (afterWord? word cs).bind (afterWord? more) := by
  induction word generalizing cs with
  | nil => rfl
  | cons w word ih =>
    cases cs with
    | nil => rfl
    | cons c cs =>
      rw [List.cons_append, afterWord?, afterWord?]
      split
      · exact ih cs
      · rfl

theorem eq_slash_of_toLower {c : Char} (h : c.toLower = '/') : c = '/' := by
  rcases eq_or_add_eq_of_toLower h with heq | ⟨hcapital, hsum⟩
  · exact heq
  · change c.toNat + 32 = 47 at hsum
    omega

end Text

namespace Repository

open Text

def hostName : List Char :=
  "github.com".toList

def IsPart (cs : List Char) : Prop :=
  cs ≠ [] ∧ '/' ∉ cs

def finalSlash (final : Bool) : List Char :=
  if final then ['/'] else []

structure Address where
  front : List Char
  word : List Char
  owner : List Char
  name : List Char
  final : Bool
  word_spells : afterWord? hostName word = some []
  owner_part : IsPart owner
  name_part : IsPart name

namespace Address

def text (a : Address) : List Char :=
  a.front ++ (a.word ++ '/' :: (a.owner ++ '/' :: (a.name ++ finalSlash a.final)))

def path (a : Address) : List Char :=
  a.owner ++ '/' :: withoutSuffix a.name

end Address

theorem forall_not_isSlash {part : List Char} (h : '/' ∉ part) :
    ∀ c ∈ part, (!isSlash c) = true := by
  intro c hc
  simpa [isSlash] using fun heq : c = '/' => h (heq ▸ hc)

theorem ownerAndName?_append {owner : List Char} (h : '/' ∉ owner) (rest : List Char) :
    let name := rest.takeWhile fun c => !isSlash c
    let after := rest.dropWhile fun c => !isSlash c
    ownerAndName? (owner ++ '/' :: rest) =
      if owner.isEmpty || name.isEmpty || !(after.isEmpty || after == ['/']) then none
      else some (owner ++ '/' :: withoutSuffix name) := by
  have hall := forall_not_isSlash h
  rw [ownerAndName?, List.takeWhile_append_of_pos hall, List.takeWhile_cons_of_neg (by decide),
    List.append_nil, List.dropWhile_append_of_pos hall, List.dropWhile_cons_of_neg (by decide)]

theorem ownerAndName?_eq_some_iff {cs path : List Char} : ownerAndName? cs = some path ↔
    ∃ owner name final, IsPart owner ∧ IsPart name ∧
      cs = owner ++ '/' :: (name ++ finalSlash final) ∧
      path = owner ++ '/' :: withoutSuffix name := by
  constructor
  · intro h
    have hmem : '/' ∈ cs := by
      by_contra hmem
      rw [ownerAndName?, List.dropWhile_eq_nil_iff.mpr (forall_not_isSlash hmem)] at h
      cases h
    obtain ⟨owner, rest, rfl, howner⟩ := List.eq_append_cons_of_mem hmem
    rw [ownerAndName?_append howner] at h
    split at h
    · cases h
    · rename_i hparts
      have hcond {name after : List Char} (h : ¬ (owner.isEmpty || name.isEmpty ||
          !(after.isEmpty || after == ['/'])) = true) :
          owner ≠ [] ∧ name ≠ [] ∧ ∃ final, after = finalSlash final := by
        simpa [finalSlash, and_assoc, or_iff_not_imp_left] using h
      obtain ⟨hne, hname, final, hfinal⟩ := hcond hparts
      have hslash : '/' ∉ rest.takeWhile fun c => !isSlash c :=
        fun hmem => absurd (List.mem_takeWhile_imp hmem) (by decide)
      refine ⟨owner, _, final, ⟨hne, howner⟩, ⟨hname, hslash⟩, ?_, (Option.some.inj h).symm⟩
      rw [← hfinal, List.takeWhile_append_dropWhile]
  · rintro ⟨owner, name, final, howner, hname, rfl, rfl⟩
    have hall := forall_not_isSlash hname.2
    have htake : (name ++ finalSlash final).takeWhile (fun c => !isSlash c) = name := by
      rw [List.takeWhile_append_of_pos hall]
      cases final <;> simp [finalSlash, isSlash]
    have hdrop : (name ++ finalSlash final).dropWhile (fun c => !isSlash c) = finalSlash final := by
      rw [List.dropWhile_append_of_pos hall]
      cases final <;> simp [finalSlash, isSlash]
    rw [ownerAndName?_append howner.2, htake, hdrop, if_neg]
    have := howner.1
    have := hname.1
    cases final <;> simp [finalSlash, *]

theorem afterWord?_host_eq_some_iff {cs rest : List Char} : afterWord? host cs = some rest ↔
    ∃ word, cs = word ++ '/' :: rest ∧ afterWord? hostName word = some [] := by
  have hhost : host = hostName ++ ['/'] := by decide
  have hslash (middle : List Char) :
      afterWord? ['/'] middle = some rest ↔ middle = '/' :: rest := by
    cases middle with
    | nil => simp [afterWord?]
    | cons c middle =>
      have hsame : sameLetter '/' c = true ↔ c = '/' := by
        constructor
        · intro h
          exact eq_slash_of_toLower (by simpa [sameLetter] using h)
        · rintro rfl
          decide
      simp [afterWord?, hsame]
  rw [hhost, afterWord?_append, Option.bind_eq_some_iff]
  constructor
  · rintro ⟨middle, hmiddle, hrest⟩
    obtain rfl := (hslash middle).mp hrest
    exact afterWord?_eq_some_iff.mp hmiddle
  · intro h
    exact ⟨_, afterWord?_eq_some_iff.mpr h, (hslash _).mpr rfl⟩

theorem find?_cons (c : Char) (cs : List Char) : find? (c :: cs) =
    ((afterWord? host (c :: cs)).bind ownerAndName?).or (find? cs) := by
  rw [find?]
  cases (afterWord? host (c :: cs)).bind ownerAndName? <;> rfl

theorem exists_address_of_find? {cs path : List Char} (h : find? cs = some path) :
    ∃ a : Address, a.text = cs ∧ a.path = path := by
  -- What the search passes over is put in front of the address that it finds later.
  induction cs with
  | nil => cases h
  | cons c cs ih =>
    rw [find?_cons, Option.or_eq_some_iff] at h
    rcases h with hhere | ⟨-, hlater⟩
    · obtain ⟨rest, hword, hrest⟩ := Option.bind_eq_some_iff.mp hhere
      obtain ⟨word, heq, hspells⟩ := afterWord?_host_eq_some_iff.mp hword
      obtain ⟨owner, name, final, howner, hname, rfl, rfl⟩ := ownerAndName?_eq_some_iff.mp hrest
      exact ⟨⟨[], word, owner, name, final, hspells, howner, hname⟩, heq.symm, rfl⟩
    · obtain ⟨a, rfl, rfl⟩ := ih hlater
      exact ⟨{ a with front := c :: a.front }, rfl, rfl⟩

theorem find?_ne_none_of_hit {cs : List Char} (h : (afterWord? host cs).bind ownerAndName? ≠ none) :
    find? cs ≠ none := by
  cases cs with
  | nil => exact absurd rfl h
  | cons c cs =>
    rw [find?_cons, ne_eq, Option.or_eq_none_iff]
    exact fun hnone => h hnone.1

theorem find?_append_ne_none {cs : List Char} (h : find? cs ≠ none) (front : List Char) :
    find? (front ++ cs) ≠ none := by
  induction front with
  | nil => exact h
  | cons c front ih =>
    rw [List.cons_append, find?_cons, ne_eq, Option.or_eq_none_iff]
    exact fun hnone => ih hnone.2

theorem find?_text_ne_none (a : Address) : find? a.text ≠ none := by
  refine find?_append_ne_none (find?_ne_none_of_hit ?_) a.front
  have hparts := ownerAndName?_eq_some_iff.mpr
    ⟨a.owner, a.name, a.final, a.owner_part, a.name_part, rfl, rfl⟩
  rw [afterWord?_host_eq_some_iff.mpr ⟨a.word, rfl, a.word_spells⟩, Option.bind_some, hparts]
  exact Option.some_ne_none _

section Foreign

/-- What follows a scheme, which ends in a colon and two slashes; all of a text without one. -/
def afterScheme (cs : List Char) : List Char :=
  match cs.dropWhile fun c => c != ':' && c != '/' with
  | ':' :: '/' :: '/' :: rest => rest
  | _ => cs

def authority (cs : List Char) : List Char :=
  (afterScheme cs).takeWhile fun c => !isSlash c

def IsForeign (url : String) : Prop :=
  (authority (trim url.toList)).map Char.toLower ≠ hostName

instance (url : String) : Decidable (IsForeign url) :=
  inferInstanceAs (Decidable (_ ≠ _))

def IsLead (cs : List Char) : Prop :=
  cs = [] ∨ ∃ scheme, cs = scheme ++ "://".toList ∧ ':' ∉ scheme ∧ '/' ∉ scheme

/-- The name of the host stands where the host of an address stands, in plain letters. -/
def Address.IsGenuine (a : Address) : Prop :=
  IsLead a.front ∧ a.word.map Char.toLower = hostName

/-- Addresses that end as those of repositories do, with the name of the host in some other place or
in letters that only look like it. -/
def IsDisguised (url : String) : Prop :=
  ∃ a : Address, a.text = trim url.toList ∧ ¬ a.IsGenuine

theorem not_mem_of_map_toLower {word : List Char} (h : word.map Char.toLower = hostName) :
    ':' ∉ word ∧ '/' ∉ word := by
  constructor
  · intro hmem
    have hhost : Char.toLower ':' ∈ hostName := h ▸ List.mem_map_of_mem hmem
    exact absurd hhost (by decide)
  · intro hmem
    have hhost : Char.toLower '/' ∈ hostName := h ▸ List.mem_map_of_mem hmem
    exact absurd hhost (by decide)

theorem dropWhile_append {part : List Char} (hcolon : ':' ∉ part) (hslash : '/' ∉ part)
    (rest : List Char) : (part ++ rest).dropWhile (fun c => c != ':' && c != '/') =
      rest.dropWhile fun c => c != ':' && c != '/' := by
  refine List.dropWhile_append_of_pos fun c hc => ?_
  have hc1 : c ≠ ':' := fun heq => hcolon (heq ▸ hc)
  have hc2 : c ≠ '/' := fun heq => hslash (heq ▸ hc)
  simp [hc1, hc2]

theorem afterScheme_lead_append {front : List Char} (h : IsLead front) {word : List Char}
    (hcolon : ':' ∉ word) (hslash : '/' ∉ word) (rest : List Char) :
    afterScheme (front ++ (word ++ '/' :: rest)) = word ++ '/' :: rest := by
  rcases h with rfl | ⟨scheme, rfl, hsc, hss⟩
  -- Without a scheme the first colon or slash is the slash after the word.
  · rw [List.nil_append, afterScheme, dropWhile_append hcolon hslash,
      List.dropWhile_cons_of_neg (by decide)]
    rfl
  · rw [List.append_assoc, afterScheme, dropWhile_append hsc hss]
    rfl

theorem Address.IsGenuine.authority_text {a : Address} (h : a.IsGenuine) :
    authority a.text = a.word := by
  obtain ⟨hcolon, hslash⟩ := not_mem_of_map_toLower h.2
  rw [authority, text, afterScheme_lead_append h.1 hcolon hslash,
    List.takeWhile_append_of_pos (forall_not_isSlash hslash),
    List.takeWhile_cons_of_neg (by decide), List.append_nil]

theorem not_isGenuine_of_isForeign {url : String} (h : IsForeign url) {a : Address}
    (ha : a.text = trim url.toList) : ¬ a.IsGenuine := by
  intro hgenuine
  refine h ?_
  rw [← ha, hgenuine.authority_text]
  exact hgenuine.2

theorem exists_address_of_path? {url path : String} (h : path? url = some path) :
    ∃ a : Address, a.text = trim url.toList ∧ String.ofList a.path = path := by
  obtain ⟨found, hfound, rfl⟩ := Option.map_eq_some_iff.mp h
  obtain ⟨a, ha, rfl⟩ := exists_address_of_find? hfound
  exact ⟨a, ha, rfl⟩

theorem isDisguised_iff {url : String} (h : IsForeign url) :
    IsDisguised url ↔ ∃ path, path? url = some path := by
  constructor
  · rintro ⟨a, ha, -⟩
    rw [path?, ← ha]
    obtain ⟨path, hpath⟩ := Option.ne_none_iff_exists'.mp (find?_text_ne_none a)
    exact ⟨_, congrArg (Option.map String.ofList) hpath⟩
  · rintro ⟨path, hpath⟩
    obtain ⟨a, ha, -⟩ := exists_address_of_path? hpath
    exact ⟨a, ha, not_isGenuine_of_isForeign h ha⟩

end Foreign

end Repository

end DiffReach
