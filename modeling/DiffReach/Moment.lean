namespace DiffReach

structure Day where
  year : Nat
  month : Nat
  day : Nat
  deriving DecidableEq

structure Clock where
  hour : Nat
  minute : Nat
  second : Nat
  micro : Nat
  deriving DecidableEq

inductive Moment where
  | day (d : Day)
  | clock (t : Clock)
  /-- A day with a time, and the minutes that its place is ahead of the prime meridian, if told. -/
  | stamp (d : Day) (t : Clock) (offset : Option Int)
  deriving DecidableEq

namespace Moment

def isLeap (year : Nat) : Bool :=
  year % 4 == 0 && (year % 100 != 0 || year % 400 == 0)

def monthLength (year month : Nat) : Nat :=
  if month == 2 then if isLeap year then 29 else 28
  else if [4, 6, 9, 11].elem month then 30 else 31

def day? (year month day : Int) : Option Day :=
  let (y, m, d) := (year.toNat, month.toNat, day.toNat)
  if 1 ≤ year ∧ year ≤ 9999 ∧ 1 ≤ month ∧ month ≤ 12 ∧ 1 ≤ day ∧ d ≤ monthLength y m then
    some ⟨y, m, d⟩
  else none

def clock? (hour minute second micro : Int) : Option Clock :=
  if 0 ≤ hour ∧ hour < 24 ∧ 0 ≤ minute ∧ minute < 60 ∧ 0 ≤ second ∧ second < 60
      ∧ 0 ≤ micro ∧ micro < 1000000 then
    some ⟨hour.toNat, minute.toNat, second.toNat, micro.toNat⟩
  else none

def padded (width n : Nat) : String :=
  let digits := toString n
  String.ofList (List.replicate (width - digits.length) '0') ++ digits

def dayText (d : Day) : String :=
  padded 4 d.year ++ "-" ++ padded 2 d.month ++ "-" ++ padded 2 d.day

def clockText (t : Clock) : String :=
  padded 2 t.hour ++ ":" ++ padded 2 t.minute ++ ":" ++ padded 2 t.second
    ++ (if t.micro == 0 then "" else "." ++ padded 6 t.micro)

def offsetText : Option Int → String
  | none => ""
  | some minutes =>
      let sign := if minutes < 0 then "-" else "+"
      sign ++ padded 2 (minutes.natAbs / 60) ++ ":" ++ padded 2 (minutes.natAbs % 60)

def textWith (mark : String) : Moment → String
  | .day d => dayText d
  | .clock t => clockText t
  | .stamp d t offset => dayText d ++ mark ++ clockText t ++ offsetText offset

def text (m : Moment) : String :=
  m.textWith " "

def written : Moment → String
  | .stamp d t (some 0) => dayText d ++ "T" ++ clockText t ++ "Z"
  | m => m.textWith "T"

/-- The numbers of a time, without zeros in the two last places. -/
def clockNumbers (t : Clock) : List Nat :=
  if t.micro != 0 then [t.hour, t.minute, t.second, t.micro]
  else if t.second != 0 then [t.hour, t.minute, t.second]
  else [t.hour, t.minute]

def numbers : Moment → List Nat
  | .day d => [d.year, d.month, d.day]
  | .clock t => clockNumbers t
  | .stamp d t _ => [d.year, d.month, d.day] ++ clockNumbers t

def quoted (m : Moment) : String :=
  let name := match m with
    | .day _ => "datetime.date"
    | .clock _ => "datetime.time"
    | .stamp _ _ _ => "datetime.datetime"
  name ++ "(" ++ String.intercalate ", " (m.numbers.map toString) ++ ")"

end Moment

end DiffReach
