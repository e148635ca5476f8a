import DiffReach.Text.Printable

namespace DiffReach.Text

def hexDigits (width n : Nat) : List Char :=
  let ds := Nat.toDigits 16 n
  List.replicate (width - ds.length) '0' ++ ds

def singleQuote : Char := Char.ofNat 39

def codeEscape (n : Nat) : List Char :=
  if n < 0x100 then '\\' :: 'x' :: hexDigits 2 n
  else if n < 0x10000 then '\\' :: 'u' :: hexDigits 4 n
  else '\\' :: 'U' :: hexDigits 8 n

def quoteChar (quote c : Char) : List Char :=
  if c = quote || c = '\\' then ['\\', c]
  else if c = '\n' then ['\\', 'n']
  else if c = '\r' then ['\\', 'r']
  else if c = '\t' then ['\\', 't']
  else if isPrintable c then [c]
  else codeEscape c.toNat

def quoted (cs : List Char) : List Char :=
  let quote := if cs.elem singleQuote && !cs.elem '"' then '"' else singleQuote
  quote :: (cs.flatMap (quoteChar quote) ++ [quote])

def quote (s : String) : String :=
  String.ofList (quoted s.toList)

def isHighSurrogate (n : Nat) : Bool :=
  decide (0xD800 ≤ n) && decide (n ≤ 0xDBFF)

def isLowSurrogate (n : Nat) : Bool :=
  decide (0xDC00 ≤ n) && decide (n ≤ 0xDFFF)

def isSurrogate (n : Nat) : Bool :=
  isHighSurrogate n || isLowSurrogate n

/-- Code points that are no text, since a surrogate among them is no character. They can be held,
compared and shown, but not encoded. -/
structure Torn where
  codes : List Nat
  holdsSurrogate : codes.any isSurrogate = true
  deriving DecidableEq

/-- A surrogate is shown as the replacement character. -/
def ofCodes (codes : List Nat) : String :=
  String.ofList (codes.map fun n => Char.ofNat (if isSurrogate n then 0xFFFD else n))

namespace Torn

def shown (t : Torn) : String :=
  ofCodes t.codes

def quoted (t : Torn) : List Char :=
  let isDouble := t.codes.elem singleQuote.toNat && !t.codes.elem '"'.toNat
  let quote := if isDouble then '"' else singleQuote
  quote :: (t.codes.flatMap (fun n =>
    if isSurrogate n then codeEscape n else quoteChar quote (Char.ofNat n)) ++ [quote])

end Torn

def staysInAddress (c : Char) : Bool :=
  c.isAlphanum || c == '_' || c == '.' || c == '-' || c == '~' || c == '/'

def hexCapital (n : Nat) : Char :=
  if n < 10 then Char.ofNat (0x30 + n) else Char.ofNat (0x37 + n)

def percentByte (b : UInt8) : List Char :=
  ['%', hexCapital (b.toNat / 16), hexCapital (b.toNat % 16)]

def percentChar (c : Char) : List Char :=
  if staysInAddress c then [c] else (String.utf8EncodeChar c).flatMap percentByte

def percentEncode (s : String) : String :=
  String.ofList (s.toList.flatMap percentChar)

end DiffReach.Text
