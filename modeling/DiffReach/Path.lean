import DiffReach.Text.Character
import DiffReach.Text.Lines

namespace DiffReach.Path

def forward (c : Char) : Char :=
  if c = '\\' then '/' else c

def normalizeChars (cs : List Char) : List Char :=
  Text.trim ((cs.map forward).dropWhile (· == '/'))

def normalize (path : String) : String :=
  String.ofList (normalizeChars path.toList)

def components (path : String) : List (List Char) :=
  (Text.splitOn '/' path.toList).filter fun part => !part.isEmpty && part != ['.']

/-- The part of the last component from its last point on, unless the point is its first or last
character. -/
def suffix (path : String) : String :=
  match (components path).getLast? with
  | none => ""
  | some name =>
      let tail := (name.reverse.takeWhile (· != '.')).reverse
      if tail.isEmpty || name.length ≤ tail.length + 1 then "" else String.ofList ('.' :: tail)

/-- The slashes at the root of a path: none, one, or exactly two. -/
def root (path : String) : List Char :=
  match path.toList with
  | '/' :: '/' :: '/' :: _ => ['/']
  | '/' :: '/' :: _ => ['/', '/']
  | '/' :: _ => ['/']
  | _ => []

def tidy (path : String) : String :=
  match root path, components path with
  | [], [] => "."
  | slashes, parts => String.ofList (slashes ++ ['/'].intercalate parts)

end DiffReach.Path
