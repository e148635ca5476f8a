import DiffReach.Proofs.Basic
import DiffReach.Proofs.Repository
import Mathlib.Data.List.DropRight

namespace DiffReach

namespace Text

/-- What counts as a small letter when case is ignored: some letters have spellings beyond ASCII. -/
def spellings (letter : Char) : List Char :=
  letter :: letter.toUpper ::
    (if letter = 'i' then [Char.ofNat 0x130, Char.ofNat 0x131]
      else if letter = 's' then [Char.ofNat 0x17F]
      else if letter = 'k' then [Char.ofNat 0x212A]
      else [])

def Spells (word cs : List Char) : Prop :=
  List.Forall₂ (fun letter c => c ∈ spellings letter) word cs

instance (word cs : List Char) : Decidable (Spells word cs) :=
  inferInstanceAs (Decidable (List.Forall₂ _ _ _))

def EndsIn (word cs : List Char) : Prop :=
  Spells word (cs.rtake word.length)

instance (word cs : List Char) : Decidable (EndsIn word cs) :=
  inferInstanceAs (Decidable (Spells _ _))

theorem endsIn_iff {word cs : List Char} :
    EndsIn word cs ↔ ∃ front tail, cs = front ++ tail ∧ Spells word tail := by
  constructor
  · intro h
    exact ⟨cs.rdrop word.length, cs.rtake word.length, (List.take_append_drop _ cs).symm, h⟩
  · rintro ⟨front, tail, rfl, h⟩
    have hlength : word.length = tail.length := List.Forall₂.length_eq h
    rw [EndsIn, List.rtake, hlength, List.length_append, Nat.add_sub_cancel, List.drop_left]
    exact h

theorem toNat_toUpper (c : Char) : c.toUpper.toNat =
    if 97 ≤ c.toNat ∧ c.toNat ≤ 122 then c.toNat - 32 else c.toNat := by
  delta Char.toUpper
  split
  · rename_i h
    have hlow : 97 ≤ c.val.toNat := UInt32.le_iff_toNat_le.mp h.1
    have hhigh : c.val.toNat ≤ 122 := UInt32.le_iff_toNat_le.mp h.2
    rw [if_pos ⟨hlow, hhigh⟩]
    -- The capitals stand before the small letters, so the sum wraps around once.
    change (c.val + 4294967264).toNat = c.val.toNat - 32
    rw [UInt32.toNat_add]
    change (c.val.toNat + 4294967264) % 2 ^ 32 = c.val.toNat - 32
    omega
  · rename_i h
    rw [if_neg fun hn => h ⟨UInt32.le_iff_toNat_le.mpr hn.1, UInt32.le_iff_toNat_le.mpr hn.2⟩]

theorem toLower_eq_iff {letter c : Char} (h : letter.toLower = letter) :
    c.toLower = letter ↔ c = letter ∨ c = letter.toUpper := by
  rw [← Char.toNat_inj, toNat_toLower] at h
  rw [← Char.toNat_inj, ← Char.toNat_inj, ← Char.toNat_inj, toNat_toLower, toNat_toUpper]
  split_ifs at h ⊢ <;> omega

theorem sameLetter_iff {letter c : Char} (h : letter.toLower = letter) :
    sameLetter letter c = true ↔ c ∈ spellings letter := by
  have hcode (n : Nat) (hn : (Char.ofNat n).toNat = n) : c.toNat = n ↔ c = Char.ofNat n := by
    rw [← Char.toNat_inj, hn]
  rw [sameLetter, spellings, List.mem_cons, List.mem_cons, ← or_assoc, ← toLower_eq_iff h]
  by_cases hi : letter = 'i'
  · subst hi
    simp [hcode 0x130 (by decide), hcode 0x131 (by decide)]
  · by_cases hs : letter = 's'
    · subst hs
      simp [hcode 0x17F (by decide)]
    · by_cases hk : letter = 'k'
      · subst hk
        simp [hcode 0x212A (by decide)]
      · simp [hi, hs, hk]

theorem afterWord?_eq_some_nil_iff {word cs : List Char} (h : word.map Char.toLower = word) :
    afterWord? word cs = some [] ↔ Spells word cs := by
  induction word generalizing cs with
  | nil =>
    rw [Spells, List.forall₂_nil_left_iff]
    exact Option.some_inj
  | cons letter word ih =>
    obtain ⟨hletter, hword⟩ := List.cons.inj h
    cases cs with
    | nil => simp [afterWord?, Spells]
    | cons c cs =>
      rw [afterWord?, Spells, List.forall₂_cons, ← sameLetter_iff hletter]
      split
      · rename_i hsame
        exact (ih hword).trans (and_iff_right hsame).symm
      · rename_i hother
        simp [hother]

theorem not_mem_of_spells {word cs : List Char} (h : Spells word cs) {c : Char}
    (hc : c ∉ word.flatMap spellings) : c ∉ cs := by
  rw [Spells] at h
  induction h with
  | nil => exact List.not_mem_nil
  | cons hletter _ ih =>
    rw [List.flatMap_cons, List.mem_append, not_or] at hc
    rw [List.mem_cons, not_or]
    exact ⟨fun heq => hc.1 (heq ▸ hletter), ih hc.2⟩

end Text

namespace Repository

open Text

def gitSuffix : List Char :=
  ".git".toList

def stem (name : List Char) : List Char :=
  if 4 < name.length ∧ EndsIn gitSuffix name then name.rdrop 4 else name

def withoutFinalSlash (cs : List Char) : List Char :=
  if cs.getLast? = some '/' then cs.dropLast else cs

def parts (cs : List Char) : List (List Char) :=
  (withoutFinalSlash cs).splitOn '/'

/-- From the last part on; those before the third do not matter. -/
def ofParts? : List (List Char) → Option (List Char)
  | name :: owner :: place :: _ =>
      if owner ≠ [] ∧ name ≠ [] ∧ EndsIn hostName place then some (owner ++ '/' :: stem name)
      else none
  | _ => none

def bySplitting (url : String) : Option String :=
  (ofParts? (parts (trim url.toList)).reverse).map String.ofList

section

variable {cs path : List Char}

theorem withoutFinalSlash_append {name : List Char} (h : IsPart name) (lead : List Char)
    (final : Bool) : withoutFinalSlash (lead ++ (name ++ finalSlash final)) = lead ++ name := by
  obtain ⟨hne, hslash⟩ := h
  cases final with
  | true =>
    rw [finalSlash, if_pos rfl, ← List.append_assoc, withoutFinalSlash,
      if_pos (List.getLast?_concat), List.dropLast_concat]
  | false =>
    rw [finalSlash, if_neg Bool.false_ne_true, List.append_nil, withoutFinalSlash, if_neg]
    rw [List.getLast?_append_of_ne_nil lead hne]
    exact fun hlast => hslash (List.mem_of_getLast? hlast)

theorem exists_finalSlash (cs : List Char) :
    ∃ final, cs = withoutFinalSlash cs ++ finalSlash final := by
  rw [withoutFinalSlash]
  split
  · rename_i hlast
    obtain ⟨front, rfl⟩ := List.getLast?_eq_some_iff.mp hlast
    exact ⟨true, by rw [List.dropLast_concat, finalSlash, if_pos rfl]⟩
  · exact ⟨false, (List.append_nil cs).symm⟩

theorem exists_last_part (cs : List Char) : ∃ last, ∀ more, '/' ∉ more →
    ∃ before, (cs ++ more).splitOn '/' = before ++ [last ++ more] := by
  by_cases hslash : '/' ∈ cs
  · obtain ⟨tail, front, heq, htail⟩ := List.eq_append_cons_of_mem (List.mem_reverse.mpr hslash)
    have hcs : cs = front.reverse ++ '/' :: tail.reverse := by
      rw [← List.reverse_reverse cs, heq]
      simp
    refine ⟨tail.reverse, fun more hmore => ?_⟩
    have hpart : '/' ∉ tail.reverse ++ more := by simp [htail, hmore]
    refine ⟨front.reverse.splitOn '/', ?_⟩
    rw [hcs, List.append_assoc, List.cons_append, List.splitOn_append_cons_self,
      List.splitOn_eq_singleton hpart]
  · refine ⟨cs, fun more hmore => ⟨[], ?_⟩⟩
    have hpart : '/' ∉ cs ++ more := by simp [hslash, hmore]
    rw [List.splitOn_eq_singleton hpart, List.nil_append]

theorem exists_lead_of_splitOn {before : List (List Char)} {place owner name : List Char}
    (h : cs.splitOn '/' = before ++ [place, owner, name]) :
    ∃ lead, cs = lead ++ (place ++ '/' :: (owner ++ '/' :: name)) := by
  have hjoin : ['/'].intercalate (cs.splitOn '/') = cs := List.intercalate_splitOn '/'
  rw [← hjoin, h]
  clear h hjoin
  induction before with
  | nil => exact ⟨[], by simp [List.intercalate]⟩
  | cons part before ih =>
    obtain ⟨lead, hlead⟩ := ih
    refine ⟨part ++ '/' :: lead, ?_⟩
    rw [List.cons_append, List.intercalate_cons_of_ne_nil (by simp), hlead]
    simp

theorem ofParts?_reverse (before : List (List Char)) (place owner name : List Char) :
    ofParts? (before ++ [place, owner, name]).reverse =
      if owner ≠ [] ∧ name ≠ [] ∧ EndsIn hostName place then some (owner ++ '/' :: stem name)
      else none := by
  rw [List.reverse_append]
  rfl

theorem spells_hostName_iff {word : List Char} :
    afterWord? hostName word = some [] ↔ Spells hostName word :=
  afterWord?_eq_some_nil_iff (by decide)

theorem spells_gitSuffix_iff {word : List Char} :
    afterWord? gitSuffix word = some [] ↔ Spells gitSuffix word :=
  afterWord?_eq_some_nil_iff (by decide)

theorem withoutSuffix_eq_stem (name : List Char) : withoutSuffix name = stem name := by
  have hcond : (4 < name.length && afterWord? gitSuffix (name.drop (name.length - 4)) == some []) =
      true ↔ 4 < name.length ∧ EndsIn gitSuffix name := by
    rw [Bool.and_eq_true, decide_eq_true_iff, beq_iff_eq, spells_gitSuffix_iff]
    rfl
  rw [withoutSuffix, stem, List.rdrop]
  exact if_congr hcond rfl rfl

theorem stem_append (front : List Char) {first second : List Char} (hfirst : Spells gitSuffix first)
    (hsecond : Spells gitSuffix second) : stem (front ++ (first ++ second)) = front ++ first := by
  have hlength : first.length = 4 := (List.Forall₂.length_eq hfirst).symm
  have hlength' : second.length = 4 := (List.Forall₂.length_eq hsecond).symm
  rw [← List.append_assoc, stem, if_pos ⟨by simp; omega, endsIn_iff.mpr ⟨_, _, rfl, hsecond⟩⟩,
    ← hlength', List.rdrop_append_length]

theorem Address.withoutFinalSlash_text (a : Address) : withoutFinalSlash a.text =
    (a.front ++ a.word) ++ '/' :: (a.owner ++ '/' :: a.name) := by
  have h := withoutFinalSlash_append a.name_part (a.front ++ a.word ++ '/' :: (a.owner ++ ['/']))
    a.final
  simpa [text] using h

theorem exists_parts_text (a : Address) : ∃ before place,
    parts a.text = before ++ [place, a.owner, a.name] ∧ EndsIn hostName place := by
  have hspells : Spells hostName a.word := spells_hostName_iff.mp a.word_spells
  obtain ⟨last, hlast⟩ := exists_last_part a.front
  obtain ⟨before, hbefore⟩ := hlast a.word (not_mem_of_spells hspells (by decide))
  refine ⟨before, last ++ a.word, ?_, endsIn_iff.mpr ⟨last, a.word, rfl, hspells⟩⟩
  rw [parts, a.withoutFinalSlash_text, List.splitOn_append_cons_self, hbefore,
    List.splitOn_append_cons_self_of_not_mem a.owner_part.2,
    List.splitOn_eq_singleton a.name_part.2, List.append_assoc]
  rfl

theorem ofParts?_parts_text (a : Address) : ofParts? (parts a.text).reverse = some a.path := by
  obtain ⟨before, place, hparts, hplace⟩ := exists_parts_text a
  rw [hparts, ofParts?_reverse, if_pos ⟨a.owner_part.1, a.name_part.1, hplace⟩, Address.path,
    withoutSuffix_eq_stem]

theorem exists_of_ofParts? {ps : List (List Char)} (h : ofParts? ps.reverse = some path) :
    ∃ before place owner name, ps = before ++ [place, owner, name] ∧ owner ≠ [] ∧ name ≠ [] ∧
      EndsIn hostName place ∧ path = owner ++ '/' :: stem name := by
  rcases hps : ps.reverse with _ | ⟨name, _ | ⟨owner, _ | ⟨place, rest⟩⟩⟩
  all_goals rw [hps] at h
  · cases h
  · cases h
  · cases h
  · rw [ofParts?] at h
    split at h
    · rename_i hcond
      refine ⟨rest.reverse, place, owner, name, ?_, hcond.1, hcond.2.1, hcond.2.2,
        (Option.some.inj h).symm⟩
      rw [← List.reverse_reverse ps, hps]
      simp
    · cases h

theorem exists_address_of_ofParts? (h : ofParts? (parts cs).reverse = some path) :
    ∃ a : Address, a.text = cs := by
  obtain ⟨before, place, owner, name, hparts, howner, hname, hplace, -⟩ := exists_of_ofParts? h
  obtain ⟨lead, hlead⟩ := exists_lead_of_splitOn hparts
  obtain ⟨front, word, rfl, hword⟩ := endsIn_iff.mp hplace
  obtain ⟨final, hfinal⟩ := exists_finalSlash cs
  have hslash : ∀ part ∈ parts cs, '/' ∉ part := fun part => not_mem_of_mem_splitOn
  rw [hparts] at hslash
  refine ⟨⟨lead ++ front, word, owner, name, final, spells_hostName_iff.mpr hword,
    ⟨howner, hslash owner (by simp)⟩, ⟨hname, hslash name (by simp)⟩⟩, ?_⟩
  rw [hfinal, hlead]
  simp [Address.text]

theorem find?_eq_ofParts? (cs : List Char) : find? cs = ofParts? (parts cs).reverse := by
  cases hfind : find? cs with
  | some path =>
    obtain ⟨a, rfl, rfl⟩ := exists_address_of_find? hfind
    exact (ofParts?_parts_text a).symm
  | none =>
    cases hsplit : ofParts? (parts cs).reverse with
    | none => rfl
    | some path =>
      obtain ⟨a, rfl⟩ := exists_address_of_ofParts? hsplit
      exact absurd hfind (find?_text_ne_none a)

end

theorem ofValue?_str (url : String) : ofValue? (.str url) = path? url := by
  by_cases h : url = ""
  · subst h
    rfl
  · rw [ofValue?, Value.textOrEmpty, Value.truthy, if_pos (by simpa using h), Value.text]

theorem path?_eq_bySplitting (url : String) : path? url = bySplitting url := by
  rw [path?, find?_eq_ofParts?, bySplitting]

theorem exists_parts_of_path? {url path : String} (h : path? url = some path) :
    ∃ owner name, IsPart owner ∧ IsPart name ∧ path.toList = owner ++ '/' :: stem name ∧
      (parts (trim url.toList)).getLast? = some name := by
  obtain ⟨a, htext, rfl⟩ := exists_address_of_path? h
  obtain ⟨before, place, hparts, -⟩ := exists_parts_text a
  refine ⟨a.owner, a.name, a.owner_part, a.name_part, ?_, ?_⟩
  · rw [String.toList_ofList, Address.path, withoutSuffix_eq_stem]
  · rw [← htext, hparts]
    simp

theorem isPart_stem {name : List Char} (h : IsPart name) : IsPart (stem name) := by
  rw [stem]
  split
  · rename_i hlong
    refine ⟨fun hnil => ?_, fun hslash => h.2 (List.mem_of_mem_take hslash)⟩
    have hlength := congrArg List.length hnil
    rw [List.rdrop, List.length_take, List.length_nil] at hlength
    omega
  · exact h

theorem path_eq_bySplitting (url : String) :
    ofValue? (.str url) = bySplitting url ∧
    (∀ path, ofValue? (.str url) = some path → ∃ owner name, IsPart owner ∧ IsPart name ∧
      path.toList = owner ++ '/' :: name) ∧
    ∀ path front first second, ofValue? (.str url) = some path →
      (parts (trim url.toList)).getLast? = some (front ++ (first ++ second)) →
      Spells gitSuffix first → Spells gitSuffix second →
      ∃ owner, IsPart owner ∧ path.toList = owner ++ '/' :: (front ++ first) := by
  rw [ofValue?_str]
  refine ⟨path?_eq_bySplitting url, fun path hpath => ?_, ?_⟩
  · obtain ⟨owner, name, howner, hname, heq, -⟩ := exists_parts_of_path? hpath
    exact ⟨owner, stem name, howner, isPart_stem hname, heq⟩
  · intro path front first second hpath hlast hfirst hsecond
    obtain ⟨owner, name, howner, -, heq, hname⟩ := exists_parts_of_path? hpath
    obtain rfl : name = front ++ (first ++ second) := Option.some.inj (hname.symm.trans hlast)
    exact ⟨owner, howner, by rw [heq, stem_append front hfirst hsecond]⟩

def doubledAddress : String :=
  " https://GitHub.com/github.com/shop.GIT.git/ "

theorem path_eq_bySplitting_doubled :
    ofValue? (.str doubledAddress) = bySplitting doubledAddress ∧
    ofValue? (.str doubledAddress) = some "github.com/shop.GIT" ∧
    (∃ owner name, IsPart owner ∧ IsPart name ∧
      "github.com/shop.GIT".toList = owner ++ '/' :: name) ∧
    (parts (trim doubledAddress.toList)).getLast? =
      some ("shop".toList ++ (".GIT".toList ++ ".git".toList)) ∧
    Spells gitSuffix ".GIT".toList ∧ Spells gitSuffix ".git".toList ∧
    ∃ owner, IsPart owner ∧
      "github.com/shop.GIT".toList = owner ++ '/' :: ("shop".toList ++ ".GIT".toList) := by
  have hpath : ofValue? (.str doubledAddress) = some "github.com/shop.GIT" := rfl
  have hlast : (parts (trim doubledAddress.toList)).getLast? =
      some ("shop".toList ++ (".GIT".toList ++ ".git".toList)) := rfl
  have hfirst : Spells gitSuffix ".GIT".toList := by decide
  have hsecond : Spells gitSuffix ".git".toList := by decide
  obtain ⟨hsame, honce, hdoubled⟩ := path_eq_bySplitting doubledAddress
  exact ⟨hsame, hpath, honce _ hpath, hlast, hfirst, hsecond,
    hdoubled _ _ _ _ hpath hlast hfirst hsecond⟩

end Repository

end DiffReach
