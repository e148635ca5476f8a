namespace DiffReach.Text

abbrev Ranges := List (Nat × Nat)

/-- Whether a code point lies in one of the inclusive ranges, which ascend. -/
def Ranges.holds : Ranges → Nat → Bool
  | [], _ => false
  | (lo, hi) :: rest, n => decide (lo ≤ n) && (decide (n ≤ hi) || Ranges.holds rest n)

def blankRanges : Ranges := [
  (0x9, 0xD), (0x1C, 0x20), (0x85, 0x85), (0xA0, 0xA0), (0x1680, 0x1680), (0x2000, 0x200A),
  (0x2028, 0x2029), (0x202F, 0x202F), (0x205F, 0x205F), (0x3000, 0x3000)]

/-- White space is every character of the Unicode property and the four information separators. -/
def isBlank (c : Char) : Bool :=
  blankRanges.holds c.toNat

/-- The margin of a numeral is white space without the information separators. -/
def isMargin (c : Char) : Bool :=
  isBlank c && !(decide (0x1C ≤ c.toNat) && decide (c.toNat ≤ 0x1F))

def dropBoth (p : Char → Bool) (cs : List Char) : List Char :=
  ((cs.dropWhile p).reverse.dropWhile p).reverse

def trim (cs : List Char) : List Char :=
  dropBoth isBlank cs

/-- The zeros of the scripts with decimal digits, in ascending order. -/
def digitZeros : List Nat := [
  0x30, 0x660, 0x6F0, 0x7C0, 0x966, 0x9E6, 0xA66, 0xAE6, 0xB66, 0xBE6, 0xC66, 0xCE6, 0xD66, 0xDE6,
  0xE50, 0xED0, 0xF20, 0x1040, 0x1090, 0x17E0, 0x1810, 0x1946, 0x19D0, 0x1A80, 0x1A90, 0x1B50,
  0x1BB0, 0x1C40, 0x1C50, 0xA620, 0xA8D0, 0xA900, 0xA9D0, 0xA9F0, 0xAA50, 0xABF0, 0xFF10, 0x104A0,
  0x10D30, 0x11066, 0x110F0, 0x11136, 0x111D0, 0x112F0, 0x11450, 0x114D0, 0x11650, 0x116C0,
  0x11730, 0x118E0, 0x11950, 0x11C50, 0x11D50, 0x11DA0, 0x16A60, 0x16AC0, 0x16B50, 0x1D7CE,
  0x1D7D8, 0x1D7E2, 0x1D7EC, 0x1D7F6, 0x1E140, 0x1E2F0, 0x1E950, 0x1FBF0]

def digitFrom : List Nat → Nat → Option Nat
  | [], _ => none
  | start :: starts, n =>
      if n < start then none
      else if n < start + 10 then some (n - start)
      else digitFrom starts n

def digitValue? (c : Char) : Option Nat :=
  digitFrom digitZeros c.toNat

def isDigit (c : Char) : Bool :=
  (digitValue? c).isSome

/-- Whether a character is the given lower-case letter up to case. Beyond ASCII the dotted capital
and the dotless small i, the long s and the Kelvin sign count as their letters. A character that is
no letter is only the same as itself. -/
def sameLetter (letter c : Char) : Bool :=
  c.toLower == letter
    || (letter == 'i' && (c.toNat == 0x130 || c.toNat == 0x131))
    || (letter == 's' && c.toNat == 0x17F)
    || (letter == 'k' && c.toNat == 0x212A)

def afterWord? : List Char → List Char → Option (List Char)
  | [], cs => some cs
  | _ :: _, [] => none
  | w :: word, c :: cs => if sameLetter w c then afterWord? word cs else none

def holdsWord (word : List Char) : List Char → Bool
  | [] => word.isEmpty
  | c :: cs => (afterWord? word (c :: cs)).isSome || holdsWord word cs

def capital (c : Char) : Char :=
  if c.toNat = 0x131 then 'I' else if c.toNat = 0x17F then 'S' else c.toUpper

def occursIn (part : List Char) : List Char → Bool
  | [] => part.isEmpty
  | c :: cs => part.isPrefixOf (c :: cs) || occursIn part cs

def dropTrailing (c : Char) (s : String) : String :=
  String.ofList (s.toList.reverse.dropWhile (· == c)).reverse

def dropLeading (c : Char) (s : String) : String :=
  String.ofList (s.toList.dropWhile (· == c))

end DiffReach.Text
