namespace DiffReach.Text

def consSplit (sep c : Char) (parts : List (List Char)) : List (List Char) :=
  if c = sep then [] :: parts
  else match parts with
    | [] => [[c]]
    | part :: parts => (c :: part) :: parts

def splitOn (sep : Char) (cs : List Char) : List (List Char) :=
  cs.foldr (consSplit sep) [[]]

/-- The parts of a text between the first so many places where a separator stands, read from the
left; characters of a separator that was found are skipped. -/
def splitFrom (sep : List Char) : Nat → Nat → List Char → List Char → List (List Char)
  | _, _, part, [] => [part.reverse]
  | limit, skip + 1, part, _ :: cs => splitFrom sep limit skip part cs
  | limit, 0, part, c :: cs =>
      if 0 < limit && sep.isPrefixOf (c :: cs) then
        part.reverse :: splitFrom sep (limit - 1) (sep.length - 1) [] cs
      else splitFrom sep limit 0 (c :: part) cs

def splitAtMost (limit : Nat) (sep : List Char) (cs : List Char) : List (List Char) :=
  splitFrom sep limit 0 [] cs

def splitText (sep : List Char) (cs : List Char) : List (List Char) :=
  splitAtMost cs.length sep cs

def countText (sep : List Char) (cs : List Char) : Nat :=
  (splitText sep cs).length - 1

def replaceText (old new : List Char) (cs : List Char) : List Char :=
  List.intercalate new (splitText old cs)

def lines (s : String) : List String :=
  (splitOn '\n' s.toList).map String.ofList

def unlines (ls : List String) : String :=
  String.intercalate "\n" ls

/-- A carriage return, with or without a line feed after it, reads as a line feed. -/
def unifyNewlines : List Char → List Char
  | [] => []
  | '\r' :: '\n' :: cs => '\n' :: unifyNewlines cs
  | c :: cs => (if c = '\r' then '\n' else c) :: unifyNewlines cs

end DiffReach.Text
