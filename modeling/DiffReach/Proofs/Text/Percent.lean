import DiffReach.Text.Escape
import Mathlib.Logic.Function.Basic

namespace DiffReach.Text

def hexDigit (c : Char) : Nat :=
  if c.toNat < 0x3A then c.toNat - 0x30 else c.toNat - 0x37

def unpercent : List Char → List UInt8
  | [] => []
  | '%' :: high :: low :: rest =>
      UInt8.ofNat (hexDigit high * 16 + hexDigit low) :: unpercent rest
  | c :: rest => String.utf8EncodeChar c ++ unpercent rest

theorem hexDigit_hexCapital {n : Nat} (h : n < 16) : hexDigit (hexCapital n) = n := by
  have hall : ∀ m : Fin 16, hexDigit (hexCapital m) = m := by decide
  exact hall ⟨n, h⟩

theorem unpercent_percentByte (b : UInt8) (rest : List Char) :
    unpercent (percentByte b ++ rest) = b :: unpercent rest := by
  have hb : b.toNat < 256 := b.toNat_lt
  have hhigh : hexDigit (hexCapital (b.toNat / 16)) = b.toNat / 16 :=
    hexDigit_hexCapital (by omega)
  have hlow : hexDigit (hexCapital (b.toNat % 16)) = b.toNat % 16 :=
    hexDigit_hexCapital (by omega)
  have hsum : b.toNat / 16 * 16 + b.toNat % 16 = b.toNat := by omega
  simp only [percentByte, List.cons_append, List.nil_append, unpercent, hhigh, hlow, hsum,
    UInt8.ofNat_toNat]

theorem unpercent_percentBytes (bytes : List UInt8) (rest : List Char) :
    unpercent (bytes.flatMap percentByte ++ rest) = bytes ++ unpercent rest := by
  induction bytes with
  | nil => rfl
  | cons b bytes ih =>
    rw [List.flatMap_cons, List.append_assoc, unpercent_percentByte, ih, List.cons_append]

theorem unpercent_percentChar (c : Char) (rest : List Char) :
    unpercent (percentChar c ++ rest) = String.utf8EncodeChar c ++ unpercent rest := by
  rw [percentChar]
  split
  · rename_i hstays
    have hne : c ≠ '%' := by
      rintro rfl
      exact absurd hstays (by decide)
    simp [unpercent, hne]
  · exact unpercent_percentBytes _ rest

theorem unpercent_flatMap_percentChar (cs : List Char) :
    unpercent (cs.flatMap percentChar) = cs.flatMap String.utf8EncodeChar := by
  induction cs with
  | nil => rfl
  | cons c cs ih => rw [List.flatMap_cons, unpercent_percentChar, ih, List.flatMap_cons]

theorem percentEncode_injective : Function.Injective percentEncode := by
  intro s t h
  have hchars : s.toList.flatMap percentChar = t.toList.flatMap percentChar :=
    String.ofList_injective h
  have hbytes : s.toList.flatMap String.utf8EncodeChar =
      t.toList.flatMap String.utf8EncodeChar := by
    rw [← unpercent_flatMap_percentChar, ← unpercent_flatMap_percentChar, hchars]
  have hencoded : s.toList.utf8Encode = t.toList.utf8Encode := by
    rw [List.utf8Encode, List.utf8Encode, hbytes]
  have hdecoded := congrArg ByteArray.utf8Decode? hencoded
  rw [List.utf8Decode?_utf8Encode, List.utf8Decode?_utf8Encode] at hdecoded
  have hlist : s.toList = t.toList := by
    simpa using hdecoded
  exact String.toList_injective hlist

end DiffReach.Text
