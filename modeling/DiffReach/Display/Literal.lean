import DiffReach.Text.Lines
import DiffReach.Text.Word

namespace DiffReach.Display.Literal

open Text

/-- What is known of a literal: a number with or without a sign, an imaginary number, or anything
else, which may or may not be an item of a set. -/
inductive Kind where
  | real
  | signed
  | imaginary
  | other (isItem : Bool)
  deriving DecidableEq

def Kind.isItem : Kind → Bool
  | .other isItem => isItem
  | _ => true

abbrev Read := Option (Kind × List Char)

def isGap (c : Char) : Bool :=
  c == ' ' || c == '\t' || c.toNat == 12

/-- What follows the gap at the head of a text, inside a comment or not. Comments are gaps, and so
are line feeds behind a backslash; inside brackets all line feeds are. -/
def skipGap (inBrackets : Bool) : Bool → List Char → List Char
  | _, [] => []
  | true, c :: cs =>
      if c = '\n' then
        if inBrackets then skipGap inBrackets false cs else c :: cs
      else skipGap inBrackets true cs
  | false, '\\' :: '\n' :: cs => skipGap inBrackets false cs
  | false, c :: cs =>
      if isGap c || (inBrackets && c == '\n') then skipGap inBrackets false cs
      else if c = '#' then skipGap inBrackets true cs
      else c :: cs

def gap (inBrackets : Bool) (cs : List Char) : List Char :=
  skipGap inBrackets false cs

def digitsHere (isDigit : Char → Bool) : List Char → List Char × List Char
  | [] => ([], [])
  | '_' :: c :: cs =>
      if isDigit c then
        let (ds, rest) := digitsHere isDigit cs
        (c :: ds, rest)
      else ([], '_' :: c :: cs)
  | c :: cs =>
      if isDigit c then
        let (ds, rest) := digitsHere isDigit cs
        (c :: ds, rest)
      else ([], c :: cs)

/-- As `digitsHere`, but an underscore does not come first. -/
def digitsFirst (isDigit : Char → Bool) (cs : List Char) : List Char × List Char :=
  if cs.head? == some '_' then ([], cs) else digitsHere isDigit cs

def isHexDigit (c : Char) : Bool :=
  c.isDigit || (decide ('a' ≤ c.toLower) && decide (c.toLower ≤ 'f'))

def endsNumber (cs : List Char) : Bool :=
  !((cs.head?.map fun c => isWord c || decide (0x80 ≤ c.toNat)).getD false)

def baseDigit? (c : Char) : Option (Char → Bool) :=
  let m := c.toLower
  if m = 'x' then some isHexDigit
  else if m = 'o' then some fun d => decide ('0' ≤ d) && decide (d ≤ '7')
  else if m = 'b' then some fun d => d == '0' || d == '1'
  else none

def exponentHere (cs : List Char) : Bool × List Char :=
  match cs with
  | [] => (false, cs)
  | e :: rest =>
      if e.toLower = 'e' then
        let body := match rest with
          | '+' :: rest => rest
          | '-' :: rest => rest
          | _ => rest
        match digitsFirst Char.isDigit body with
        | ([], _) => (false, cs)
        | (_, rest) => (true, rest)
      else (false, cs)

def decimal? (cs : List Char) : Read :=
  let (whole, rest) := digitsFirst Char.isDigit cs
  let (point, fraction, rest) := match rest with
    | '.' :: rest =>
        let (ds, rest) := digitsFirst Char.isDigit rest
        (true, ds, rest)
    | _ => (false, [], rest)
  if whole.isEmpty && fraction.isEmpty then none
  else
    let (power, rest) := exponentHere rest
    match rest with
    | 'j' :: rest => if endsNumber rest then some (.imaginary, rest) else none
    | 'J' :: rest => if endsNumber rest then some (.imaginary, rest) else none
    | rest =>
        let isInteger := !point && !power
        let isPlain := whole.head? != some '0' || whole.all (· == '0')
        if endsNumber rest && (!isInteger || (isPlain && decide (whole.length ≤ 4300))) then
          some (.real, rest)
        else none

def number? (cs : List Char) : Read :=
  match cs with
  | '0' :: mark :: rest =>
      match baseDigit? mark with
      | some isDigit =>
          match digitsHere isDigit rest with
          | ([], _) => none
          | (_, rest) => if endsNumber rest then some (.real, rest) else none
      | none => decimal? cs
  | cs => decimal? cs

structure Quoting where
  isBytes : Bool
  isRaw : Bool

def afterHex? (count : Nat) (cs : List Char) : Option (List Char) :=
  let digits := cs.take count
  if digits.length = count && digits.all isHexDigit then some (cs.drop count) else none

def escapeReads (q : Quoting) (cs : List Char) : Bool :=
  match cs with
  | 'x' :: rest => (afterHex? 2 rest).isSome
  | 'u' :: rest => q.isBytes || (afterHex? 4 rest).isSome
  | 'U' :: rest =>
      q.isBytes || ((afterHex? 8 rest).isSome
        && (rest.take 3 == "000".toList || rest.take 4 == "0010".toList))
  | 'N' :: _ => q.isBytes
  | _ => true

def afterQuoted? (q : Quoting) (quote : Char) (isTriple escaped : Bool) :
    List Char → Option (List Char)
  | [] => none
  | c :: cs =>
      if q.isBytes && decide (0x80 ≤ c.toNat) then none
      else if escaped then
        if q.isRaw || escapeReads q (c :: cs) then afterQuoted? q quote isTriple false cs else none
      else if c = '\\' then afterQuoted? q quote isTriple true cs
      else if c = quote then
        if !isTriple then some cs
        else if cs.take 2 == [quote, quote] then some (cs.drop 2)
        else afterQuoted? q quote isTriple false cs
      else if c = '\n' && !isTriple then none
      else afterQuoted? q quote isTriple false cs

def quoting? (letters : List Char) : Option Quoting :=
  let name := String.ofList (letters.map Char.toLower)
  if name == "" || name == "u" then some ⟨false, false⟩
  else if name == "r" then some ⟨false, true⟩
  else if name == "b" then some ⟨true, false⟩
  else if name == "br" || name == "rb" then some ⟨true, true⟩
  else none

def quoted? (cs : List Char) : Option (Bool × List Char) := do
  let letters := cs.takeWhile Char.isAlpha
  let q ← quoting? letters
  match cs.drop letters.length with
  | [] => none
  | quote :: rest =>
      if quote = '"' || quote.toNat = 39 then
        let isTriple := rest.take 2 == [quote, quote]
        let body := if isTriple then rest.drop 2 else rest
        let after ← afterQuoted? q quote isTriple false body
        some (q.isBytes, after)
      else none

/-- Quoted texts that follow on each other make one; bytes and characters do not mix. -/
def joinQuoted (inBrackets isBytes : Bool) : Nat → List Char → Read
  | 0, _ => none
  | fuel + 1, cs =>
      let rest := gap inBrackets cs
      let begins := (rest.head?.map fun c => c.isAlpha || c == '"' || c.toNat == 39).getD false
      if !begins then some (.other true, cs)
      else match quoted? rest with
        | some (sameBytes, rest) =>
            if sameBytes == isBytes then joinQuoted inBrackets isBytes fuel rest else none
        | none => none

def named? (inBrackets : Bool) (cs : List Char) : Read :=
  let word := cs.takeWhile fun c => isWord c || decide (0x80 ≤ c.toNat)
  let rest := cs.drop word.length
  let name := String.ofList word
  if name == "True" || name == "False" || name == "None" then some (.other true, rest)
  else if name == "set" then
    match gap inBrackets rest with
    | '(' :: rest => match gap true rest with
        | ')' :: rest => some (.other false, rest)
        | _ => none
    | _ => none
  else none

def withSign : Kind → Option Kind
  | .real => some .signed
  | .imaginary => some (.other true)
  | _ => none

structure Items where
  kinds : List Kind
  hasComma : Bool

mutual

def atom : Nat → Bool → List Char → Read
  | 0, _, _ => none
  | fuel + 1, inBrackets, cs =>
      match cs with
      | [] => none
      | '(' :: rest =>
          match gap true rest with
          | ')' :: rest => some (.other true, rest)
          | rest => do
              let (found, rest) ← items fuel true ')' rest
              match found.kinds, found.hasComma, rest with
              | [kind], false, ')' :: rest => some (kind, rest)
              | kinds, _, ')' :: rest => some (.other (kinds.all Kind.isItem), rest)
              | _, _, _ => none
      | '\x7b' :: rest =>
          match gap true rest with
          | '\x7d' :: rest => some (.other false, rest)
          | rest => do
              let (first, after) ← literal fuel true rest
              if !first.isItem then none
              else match gap true after with
                | ':' :: _ => pairs fuel rest
                | _ => do
                    let (found, rest) ← items fuel true '\x7d' rest
                    match rest with
                    | '\x7d' :: rest =>
                        if found.kinds.all Kind.isItem then some (.other false, rest) else none
                    | _ => none
      | c :: _ =>
          if c.isDigit then number? cs
          else if c = '.' then
            if cs.take 3 == "...".toList then some (.other true, cs.drop 3) else number? cs
          else if c = '"' || c.toNat = 39 || (c.isAlpha && (quoted? cs).isSome) then do
            let (isBytes, rest) ← quoted? cs
            joinQuoted inBrackets isBytes (rest.length + 1) rest
          else named? inBrackets cs

def literal : Nat → Bool → List Char → Read
  | 0, _, _ => none
  | fuel + 1, inBrackets, cs => do
      let signed := match cs with
        | '+' :: _ => true
        | '-' :: _ => true
        | _ => false
      let (kind, rest) ← if signed then do
          let (kind, rest) ← atom fuel inBrackets (gap inBrackets (cs.drop 1))
          let kind ← withSign kind
          pure (kind, rest)
        else atom fuel inBrackets cs
      let next := gap inBrackets rest
      if next.head? == some '+' || next.head? == some '-' then
        if kind == .real || kind == .signed then
          match atom fuel inBrackets (gap inBrackets (next.drop 1)) with
          | some (.imaginary, rest) => some (.other true, rest)
          | _ => none
        else none
      else some (kind, rest)

def items : Nat → Bool → Char → List Char → Option (Items × List Char)
  | 0, _, _, _ => none
  | fuel + 1, inBrackets, close, cs => do
      let (kind, rest) ← literal fuel inBrackets cs
      match gap inBrackets rest with
      | ',' :: rest =>
          let rest := gap inBrackets rest
          if rest.isEmpty || rest.head? == some close then some (⟨[kind], true⟩, rest)
          else
            let (found, rest) ← items fuel inBrackets close rest
            some (⟨kind :: found.kinds, true⟩, rest)
      | rest => some (⟨[kind], false⟩, rest)

def pairs : Nat → List Char → Read
  | 0, _ => none
  | fuel + 1, cs => do
      let (key, rest) ← literal fuel true cs
      match gap true rest with
      | ':' :: rest => do
          let (_, rest) ← literal fuel true (gap true rest)
          if !key.isItem then none
          else match gap true rest with
            | '\x7d' :: rest => some (.other false, rest)
            | ',' :: rest =>
                match gap true rest with
                | '\x7d' :: rest => some (.other false, rest)
                | rest => pairs fuel rest
            | _ => none
      | _ => none

end

/-- Whether a whole text is a literal, or several ones between commas. Lines without anything may
stand before it, but its own line is not indented. -/
def isLiteral (cs : List Char) : Bool :=
  let cs := (unifyNewlines cs).dropWhile fun c => c == ' ' || c == '\t'
  let start := gap true cs
  let isIndented := match (cs.take (cs.length - start.length)).getLast? with
    | some c => c == ' ' || c == '\t'
    | none => false
  if isIndented || cs.any fun c => c.toNat == 0 then false
  else match items (4 * cs.length + 8) false '\n' start with
    | some (_, rest) => (gap true rest).isEmpty
    | none => false

end DiffReach.Display.Literal
