import DiffReach.Text.Base64
import Mathlib.Data.List.Basic
import Mathlib.Data.Nat.Bitwise

namespace DiffReach.Text.Base64

def alphabet : List Char :=
  "ABCDEFGHIJKLMNOPQRSTUVWXYZabcdefghijklmnopqrstuvwxyz0123456789+/".toList

def symbol (v : Nat) : Char :=
  alphabet.getD v '='

/-- The six bits of a value, the highest first. -/
def bits (v : Nat) : List Bool :=
  [v.testBit 5, v.testBit 4, v.testBit 3, v.testBit 2, v.testBit 1, v.testBit 0]

def number (n : Nat) (bs : List Bool) : Nat :=
  bs.foldl (fun n b => 2 * n + b.toNat) n

def octet (bs : List Bool) : UInt8 :=
  UInt8.ofNat (number 0 bs)

/-- The bytes of a row of bits; fewer than eight at its end make none. -/
def octets : List Bool → List UInt8
  | a :: b :: c :: d :: e :: f :: g :: h :: rest => octet [a, b, c, d, e, f, g, h] :: octets rest
  | _ => []

/-- So many symbols with so much padding end with a whole group: the padding fills the last group,
of which there are two symbols at least. After whole groups there may be any padding, but no text
begins with it. -/
def Closes (symbols pads : Nat) : Prop :=
  symbols % 4 = 0 ∧ (symbols = 0 → pads = 0) ∨ 2 ≤ symbols % 4 ∧ symbols % 4 + pads = 4

def Spells (cs : List Char) (bs : List UInt8) : Prop :=
  ∃ (values : List Nat) (pads : Nat), (∀ v ∈ values, v < 64) ∧ Closes values.length pads ∧
    cs = values.map symbol ++ List.replicate pads '=' ∧ bs = octets (values.flatMap bits)

section Symbols

theorem sextet?_symbol {v : Nat} (h : v < 64) : sextet? (symbol v) = some v := by
  have hall : ∀ v < 64, sextet? (symbol v) = some v := by decide +kernel
  exact hall v h

theorem symbol_ne {c : Char} {v : Nat} (h : v < 64) (hc : sextet? c = none) : symbol v ≠ c := by
  rintro rfl
  rw [sextet?_symbol h] at hc
  cases hc

theorem toNat_lt_of_sextet? {c : Char} {v : Nat} (h : sextet? c = some v) : c.toNat < 0x80 := by
  have hle {a b : Char} (hab : a ≤ b) : a.toNat ≤ b.toNat := hab
  rw [sextet?] at h
  split at h
  · rename_i hc
    exact Nat.lt_of_le_of_lt (hle hc.2) (by decide)
  split at h
  · rename_i hc
    exact Nat.lt_of_le_of_lt (hle hc.2) (by decide)
  split at h
  · rename_i hc
    exact Nat.lt_of_le_of_lt (hle hc.2) (by decide)
  split at h
  · rename_i hc
    subst hc
    decide
  split at h
  · rename_i hc
    subst hc
    decide
  · cases h

theorem symbol_isAscii {v : Nat} (h : v < 64) : (symbol v).toNat < 0x80 :=
  toNat_lt_of_sextet? (sextet?_symbol h)

theorem symbol_of_sextet? {c : Char} {v : Nat} (h : sextet? c = some v) :
    v < 64 ∧ symbol v = c := by
  have hall : ∀ n < 0x80, ∀ v ∈ sextet? (Char.ofNat n), v < 64 ∧ symbol v = Char.ofNat n := by
    decide +kernel
  have hc := hall c.toNat (toNat_lt_of_sextet? h) v
  rw [Char.ofNat_toNat] at hc
  exact hc h

end Symbols

section Bits

variable {a b c d v : Nat}

theorem number_append (n : Nat) (as bs : List Bool) :
    number n (as ++ bs) = number (number n as) bs := by
  rw [number, number, number, List.foldl_append]

theorem number_bits (n : Nat) (h : v < 64) : number n (bits v) = 64 * n + v := by
  simp only [number, bits, List.foldl_cons, List.foldl_nil, Nat.toNat_testBit]
  omega

theorem number_take_two (n : Nat) (h : v < 64) : number n ((bits v).take 2) = 4 * n + v / 16 := by
  simp only [number, bits, List.take_succ_cons, List.take_zero, List.foldl_cons, List.foldl_nil,
    Nat.toNat_testBit]
  omega

theorem number_take_four (n : Nat) (h : v < 64) : number n ((bits v).take 4) = 16 * n + v / 4 := by
  simp only [number, bits, List.take_succ_cons, List.take_zero, List.foldl_cons, List.foldl_nil,
    Nat.toNat_testBit]
  omega

theorem number_drop_two (v : Nat) : number 0 ((bits v).drop 2) = v % 16 := by
  simp only [number, bits, List.drop_succ_cons, List.drop_zero, List.foldl_cons, List.foldl_nil,
    Nat.toNat_testBit]
  omega

theorem number_drop_four (v : Nat) : number 0 ((bits v).drop 4) = v % 4 := by
  simp only [number, bits, List.drop_succ_cons, List.drop_zero, List.foldl_cons, List.foldl_nil,
    Nat.toNat_testBit]
  omega

theorem octet_first (ha : a < 64) (hb : b < 64) :
    octet (bits a ++ (bits b).take 2) = UInt8.ofNat (a * 4 + b / 16) := by
  rw [octet, number_append, number_bits 0 ha, number_take_two _ hb]
  congr 1
  omega

theorem octet_second (hc : c < 64) :
    octet ((bits b).drop 2 ++ (bits c).take 4) = UInt8.ofNat (b % 16 * 16 + c / 4) := by
  rw [octet, number_append, number_drop_two, number_take_four _ hc]
  congr 1
  omega

theorem octet_third (hd : d < 64) :
    octet ((bits c).drop 4 ++ bits d) = UInt8.ofNat (c % 4 * 64 + d) := by
  rw [octet, number_append, number_drop_four, number_bits _ hd]
  congr 1
  omega

theorem octets_group (a b c d : Nat) (rest : List Bool) :
    octets (bits a ++ (bits b ++ (bits c ++ (bits d ++ rest)))) =
      octet (bits a ++ (bits b).take 2) :: octet ((bits b).drop 2 ++ (bits c).take 4) ::
        octet ((bits c).drop 4 ++ bits d) :: octets rest :=
  rfl

theorem bytes_eq_octets {values : List Nat} (h : ∀ v ∈ values, v < 64) :
    bytes values = octets (values.flatMap bits) := by
  fun_induction bytes values with
  | case1 a b c d rest ih =>
    simp only [List.forall_mem_cons] at h
    obtain ⟨ha, hb, hc, hd, hrest⟩ := h
    simp only [List.flatMap_cons, octets_group, octet_first ha hb, octet_second hc,
      octet_third hd, ih hrest]
  | case2 a b c =>
    simp only [List.forall_mem_cons] at h
    obtain ⟨ha, hb, hc, -⟩ := h
    rw [← octet_first ha hb, ← octet_second hc]
    rfl
  | case3 a b =>
    simp only [List.forall_mem_cons] at h
    obtain ⟨ha, hb, -⟩ := h
    rw [← octet_first ha hb]
    rfl
  | case4 values h4 h3 h2 =>
    match values with
    | [] => rfl
    | [a] => rfl
    | [a, b] => exact absurd rfl (h2 a b)
    | [a, b, c] => exact absurd rfl (h3 a b c)
    | a :: b :: c :: d :: rest => exact absurd rfl (h4 a b c d rest)

end Bits

section Scan

variable {before vs : List Nat} {place pads : Nat} {padded : Bool} {cs : List Char}

theorem sextets_pad (before : List Nat) (place pads : Nat) (padded : Bool) (cs : List Char) :
    sextets before place pads padded ('=' :: cs) =
      if place < 2 then sextets before place pads true cs
      else if place + pads + 1 < 4 then sextets before place (pads + 1) true cs
      else if cs.isEmpty then some before.reverse else none := by
  rw [sextets, if_pos rfl]

theorem sextets_cons {c : Char} (hc : c ≠ '=') : sextets before place pads padded (c :: cs) =
    (sextet? c).bind fun v =>
      if padded then none else sextets (v :: before) ((place + 1) % 4) 0 false cs := by
  rw [sextets, if_neg hc]
  cases sextet? c <;> rfl

theorem sextets_padded_cons {c : Char} (hc : c ≠ '=') :
    sextets before place pads true (c :: cs) = none := by
  rw [sextets_cons hc]
  cases sextet? c <;> rfl

def Fills (place pads more : Nat) : Prop :=
  place = 0 ∨ 2 ≤ place ∧ place + pads + more = 4

theorem exists_replicate_cons {P : Nat → Prop} :
    (∃ more, '=' :: cs = List.replicate more '=' ∧ P more) ↔
      ∃ more, cs = List.replicate more '=' ∧ P (more + 1) := by
  constructor
  · rintro ⟨more, hmore, hp⟩
    cases more with
    | zero => cases hmore
    | succ more => exact ⟨more, (List.cons.inj hmore).2, hp⟩
  · rintro ⟨more, rfl, hp⟩
    exact ⟨more + 1, rfl, hp⟩

theorem sextets_padded_iff (h : place + pads < 4) :
    sextets before place pads true cs = some vs ↔
      (∃ more, cs = List.replicate more '=' ∧ Fills place pads more) ∧ vs = before.reverse := by
  induction cs generalizing pads with
  | nil =>
    have hfills : (∃ more, [] = List.replicate more '=' ∧ Fills place pads more) ↔ place = 0 := by
      simp only [eq_comm (a := []), List.replicate_eq_nil_iff, exists_eq_left, Fills]
      omega
    rw [sextets, hfills]
    by_cases hplace : place = 0 <;> simp [hplace, eq_comm]
  | cons c cs ih =>
    by_cases hc : c = '='
    · subst hc
      rw [sextets_pad, exists_replicate_cons]
      split
      · have hsame (more : Nat) : Fills place pads (more + 1) ↔ Fills place pads more := by
          rw [Fills, Fills]
          omega
        simp only [hsame]
        exact ih h
      · split
        · have hsame (more : Nat) : Fills place pads (more + 1) ↔ Fills place (pads + 1) more := by
            rw [Fills, Fills]
            omega
          simp only [hsame]
          exact ih (by omega)
        · -- this pad fills the group, and nothing may follow it
          have hlast (more : Nat) : Fills place pads (more + 1) ↔ more = 0 := by
            rw [Fills]
            omega
          simp only [hlast, exists_eq_right, List.replicate_zero]
          cases cs <;> simp [eq_comm]
    · rw [sextets_padded_cons hc]
      refine iff_of_false (by simp) ?_
      rintro ⟨⟨more, hmore, -⟩, -⟩
      cases more with
      | zero => cases hmore
      | succ more => exact hc (List.cons.inj hmore).1

theorem sextets_eq_some_iff (h : place < 4) : sextets before place 0 false cs = some vs ↔
    ∃ (values : List Nat) (more : Nat), (∀ v ∈ values, v < 64) ∧
      Fills ((place + values.length) % 4) 0 more ∧
      cs = values.map symbol ++ List.replicate more '=' ∧ vs = before.reverse ++ values := by
  induction cs generalizing before place with
  | nil =>
    rw [sextets]
    constructor
    · intro hsome
      split at hsome
      · rename_i hplace
        refine ⟨[], 0, List.forall_mem_nil _, Or.inl (by simp [hplace]), rfl, ?_⟩
        rw [List.append_nil, Option.some.inj hsome]
      · cases hsome
    · rintro ⟨values, more, -, hfills, hcs, rfl⟩
      obtain ⟨hvalues, hmore⟩ := List.append_eq_nil_iff.mp hcs.symm
      obtain rfl := List.map_eq_nil_iff.mp hvalues
      obtain rfl : more = 0 := by simpa using hmore
      have hplace : place = 0 := by
        rw [Fills, List.length_nil, Nat.add_zero, Nat.mod_eq_of_lt h] at hfills
        omega
      rw [if_pos hplace, List.append_nil]
  | cons c cs ih =>
    by_cases hc : c = '='
    · subst hc
      have hsame : sextets before place 0 false ('=' :: cs) =
          sextets before place 0 true ('=' :: cs) := by rw [sextets_pad, sextets_pad]
      rw [hsame, sextets_padded_iff (by omega)]
      constructor
      · rintro ⟨⟨more, hmore, hfills⟩, rfl⟩
        refine ⟨[], more, List.forall_mem_nil _, ?_, hmore, (List.append_nil _).symm⟩
        rwa [List.length_nil, Nat.add_zero, Nat.mod_eq_of_lt h]
      · rintro ⟨values, more, hsmall, hfills, hcs, rfl⟩
        cases values with
        | nil =>
          rw [List.length_nil, Nat.add_zero, Nat.mod_eq_of_lt h] at hfills
          exact ⟨⟨more, hcs, hfills⟩, List.append_nil _⟩
        | cons v values =>
          have hv : symbol v ≠ '=' := symbol_ne (hsmall v List.mem_cons_self) (by decide)
          exact absurd (List.cons.inj hcs).1.symm hv
    · rw [sextets_cons hc]
      have hplace : (place + 1) % 4 < 4 := Nat.mod_lt _ (by decide)
      have hcount (n : Nat) : (place + (n + 1)) % 4 = ((place + 1) % 4 + n) % 4 := by omega
      constructor
      · intro hsome
        obtain ⟨v, hv, hrest⟩ := Option.bind_eq_some_iff.mp hsome
        obtain ⟨hsmall, rfl⟩ := symbol_of_sextet? hv
        obtain ⟨values, more, hvalues, hfills, rfl, rfl⟩ := (ih hplace).mp hrest
        refine ⟨v :: values, more, List.forall_mem_cons.mpr ⟨hsmall, hvalues⟩, ?_, rfl, by simp⟩
        rwa [List.length_cons, hcount]
      · rintro ⟨values, more, hsmall, hfills, hcs, rfl⟩
        cases values with
        | nil =>
          cases more with
          | zero => cases hcs
          | succ more => exact absurd (List.cons.inj hcs).1 hc
        | cons v values =>
          obtain ⟨rfl, rfl⟩ := List.cons.inj hcs
          obtain ⟨hv, hvalues⟩ := List.forall_mem_cons.mp hsmall
          rw [List.length_cons, hcount] at hfills
          rw [sextet?_symbol hv, Option.bind_some]
          exact (ih hplace).mpr ⟨values, more, hvalues, hfills, rfl, by simp⟩

theorem decode_eq_some_iff {bs : List UInt8} : decode cs = some bs ↔ Spells cs bs := by
  rw [decode]
  constructor
  · intro hsome
    split at hsome
    · cases hsome
    · rename_i hhead
      obtain ⟨vs, hvs, rfl⟩ := Option.map_eq_some_iff.mp hsome
      obtain ⟨values, more, hsmall, hfills, rfl, hvalues⟩ :=
        (sextets_eq_some_iff (by decide)).mp hvs
      rw [Nat.zero_add] at hfills
      refine ⟨values, more, hsmall, ?_, rfl, ?_⟩
      · rcases hfills with hwhole | hfills
        · refine Or.inl ⟨hwhole, fun hnone => ?_⟩
          obtain rfl := List.length_eq_zero_iff.mp hnone
          cases more with
          | zero => rfl
          | succ more => exact absurd rfl hhead
        · exact Or.inr (by omega)
      · rw [hvalues, List.reverse_nil, List.nil_append, bytes_eq_octets hsmall]
  · rintro ⟨values, more, hsmall, hcloses, rfl, rfl⟩
    have hhead : ¬ (values.map symbol ++ List.replicate more '=').head? = some '=' := by
      cases values with
      | nil =>
        have hmore : more = 0 := by
          rcases hcloses with ⟨-, hnone⟩ | hfills
          · exact hnone rfl
          · simp at hfills
        simp [hmore]
      | cons v values =>
        have hv : symbol v ≠ '=' := symbol_ne (hsmall v List.mem_cons_self) (by decide)
        simpa using hv
    have hfills : Fills ((0 + values.length) % 4) 0 more := by
      rw [Nat.zero_add]
      exact hcloses.imp And.left id
    rw [if_neg hhead,
      (sextets_eq_some_iff (by decide)).mpr ⟨values, more, hsmall, hfills, rfl, rfl⟩,
      Option.map_some, List.reverse_nil, List.nil_append, bytes_eq_octets hsmall]

theorem Spells.isAscii {bs : List UInt8} (h : Spells cs bs) : ∀ c ∈ cs, c.toNat < 0x80 := by
  obtain ⟨values, more, hsmall, -, rfl, -⟩ := h
  intro c hc
  rcases List.mem_append.mp hc with hc | hc
  · obtain ⟨v, hv, rfl⟩ := List.mem_map.mp hc
    exact symbol_isAscii (hsmall v hv)
  · rw [List.eq_of_mem_replicate hc]
    decide

theorem Spells.not_mem_feed {bs : List UInt8} (h : Spells cs bs) : '\n' ∉ cs := by
  obtain ⟨values, more, hsmall, -, rfl, -⟩ := h
  intro hc
  rcases List.mem_append.mp hc with hc | hc
  · obtain ⟨v, hv, hfeed⟩ := List.mem_map.mp hc
    exact symbol_ne (hsmall v hv) (by decide) hfeed
  · exact absurd (List.eq_of_mem_replicate hc) (by decide)

theorem Spells.eq_nil {bs : List UInt8} (h : Spells [] bs) : bs = [] := by
  obtain ⟨values, more, -, -, hnil, rfl⟩ := h
  have hvalues : values = [] := List.map_eq_nil_iff.mp (List.append_eq_nil_iff.mp hnil.symm).1
  rw [hvalues]
  rfl

end Scan

def valuesOf : List UInt8 → List Nat
  | a :: b :: c :: rest =>
      a.toNat / 4 :: (a.toNat % 4 * 16 + b.toNat / 16) :: (b.toNat % 16 * 4 + c.toNat / 64) ::
        c.toNat % 64 :: valuesOf rest
  | [a, b] => [a.toNat / 4, a.toNat % 4 * 16 + b.toNat / 16, b.toNat % 16 * 4]
  | [a] => [a.toNat / 4, a.toNat % 4 * 16]
  | [] => []

def encode (bs : List UInt8) : List Char :=
  (valuesOf bs).map symbol ++ List.replicate ((3 - bs.length % 3) % 3) '='

section Encode

theorem lt_of_mem_valuesOf (bs : List UInt8) : ∀ v ∈ valuesOf bs, v < 64 := by
  fun_induction valuesOf bs with
  | case1 a b c rest ih =>
    have ha := a.toNat_lt
    have hb := b.toNat_lt
    have hc := c.toNat_lt
    simp only [List.forall_mem_cons]
    exact ⟨by omega, by omega, by omega, by omega, ih⟩
  | case2 a b =>
    have ha := a.toNat_lt
    have hb := b.toNat_lt
    simp only [List.forall_mem_cons]
    exact ⟨by omega, by omega, by omega, List.forall_mem_nil _⟩
  | case3 a =>
    have ha := a.toNat_lt
    simp only [List.forall_mem_cons]
    exact ⟨by omega, by omega, List.forall_mem_nil _⟩
  | case4 => exact List.forall_mem_nil _

theorem closes_valuesOf (bs : List UInt8) :
    Closes (valuesOf bs).length ((3 - bs.length % 3) % 3) := by
  rw [Closes]
  fun_induction valuesOf bs with
  | case1 a b c rest ih =>
    simp only [List.length_cons] at ih ⊢
    omega
  | case2 a b => exact Or.inr ⟨by simp, by simp⟩
  | case3 a => exact Or.inr ⟨by simp, by simp⟩
  | case4 => exact Or.inl ⟨rfl, fun _ => rfl⟩

theorem ofNat_eq {n : Nat} {a : UInt8} (h : n = a.toNat) : UInt8.ofNat n = a := by
  rw [h, UInt8.ofNat_toNat]

theorem bytes_valuesOf (bs : List UInt8) : bytes (valuesOf bs) = bs := by
  fun_induction valuesOf bs with
  | case1 a b c rest ih =>
    have ha := a.toNat_lt
    have hb := b.toNat_lt
    have hc := c.toNat_lt
    rw [bytes, ih, ofNat_eq (a := a) (by omega), ofNat_eq (a := b) (by omega),
      ofNat_eq (a := c) (by omega)]
  | case2 a b =>
    have ha := a.toNat_lt
    have hb := b.toNat_lt
    rw [bytes, ofNat_eq (a := a) (by omega), ofNat_eq (a := b) (by omega)]
  | case3 a =>
    have ha := a.toNat_lt
    rw [bytes, ofNat_eq (a := a) (by omega)]
  | case4 => rfl

theorem spells_encode (bs : List UInt8) : Spells (encode bs) bs := by
  refine ⟨valuesOf bs, _, lt_of_mem_valuesOf bs, closes_valuesOf bs, rfl, ?_⟩
  rw [← bytes_eq_octets (lt_of_mem_valuesOf bs), bytes_valuesOf]

end Encode

end DiffReach.Text.Base64
