namespace DiffReach.Text.Base64

def sextet? (c : Char) : Option Nat :=
  if 'A' ≤ c ∧ c ≤ 'Z' then some (c.toNat - 0x41)
  else if 'a' ≤ c ∧ c ≤ 'z' then some (c.toNat - 0x61 + 26)
  else if '0' ≤ c ∧ c ≤ '9' then some (c.toNat - 0x30 + 52)
  else if c = '+' then some 62
  else if c = '/' then some 63
  else none

/-- The six-bit values of a text, after those read before it, the last one first. `place` is the
place in the current group, `pads` the padding of that group, and `padded` says whether there was
any at all. Padding that comes too early is passed over, but then no data may follow it. -/
def sextets (before : List Nat) (place pads : Nat) (padded : Bool) :
    List Char → Option (List Nat)
  | [] => if place = 0 then some before.reverse else none
  | c :: cs =>
      if c = '=' then
        if place < 2 then sextets before place pads true cs
        else if place + pads + 1 < 4 then sextets before place (pads + 1) true cs
        else if cs.isEmpty then some before.reverse else none
      else match sextet? c with
        | none => none
        | some v => if padded then none else sextets (v :: before) ((place + 1) % 4) 0 false cs

def bytes : List Nat → List UInt8
  | a :: b :: c :: d :: rest =>
      UInt8.ofNat (a * 4 + b / 16) :: UInt8.ofNat (b % 16 * 16 + c / 4)
        :: UInt8.ofNat (c % 4 * 64 + d) :: bytes rest
  | [a, b, c] => [UInt8.ofNat (a * 4 + b / 16), UInt8.ofNat (b % 16 * 16 + c / 4)]
  | [a, b] => [UInt8.ofNat (a * 4 + b / 16)]
  | _ => []

def decode (cs : List Char) : Option (List UInt8) :=
  if cs.head? = some '=' then none else (sextets [] 0 0 false cs).map bytes

end DiffReach.Text.Base64
