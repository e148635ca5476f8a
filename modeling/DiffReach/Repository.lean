import DiffReach.Text.Character
import DiffReach.Value

namespace DiffReach.Repository

open Text

def host : List Char :=
  "github.com/".toList

def isSlash (c : Char) : Bool :=
  c == '/'

/-- A name without one final `.git`, unless that is all of it. -/
def withoutSuffix (name : List Char) : List Char :=
  let stem := name.take (name.length - 4)
  if 4 < name.length && afterWord? ".git".toList (name.drop (name.length - 4)) == some [] then stem
  else name

def ownerAndName? (cs : List Char) : Option (List Char) :=
  let owner := cs.takeWhile fun c => !isSlash c
  match cs.dropWhile fun c => !isSlash c with
  | [] => none
  | slash :: rest =>
      let name := rest.takeWhile fun c => !isSlash c
      let after := rest.dropWhile fun c => !isSlash c
      if owner.isEmpty || name.isEmpty || !(after.isEmpty || after == ['/']) then none
      else some (owner ++ slash :: withoutSuffix name)

/-- The repository at the first place where the host is followed by nothing but one. -/
def find? : List Char → Option (List Char)
  | [] => none
  | c :: cs =>
      match (afterWord? host (c :: cs)).bind ownerAndName? with
      | some path => some path
      | none => find? cs

def path? (url : String) : Option String :=
  (find? (trim url.toList)).map String.ofList

def ofValue? (v : Value) : Option String :=
  path? v.textOrEmpty

end DiffReach.Repository
