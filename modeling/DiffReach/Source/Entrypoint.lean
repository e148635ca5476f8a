import DiffReach.Cap
import DiffReach.Source.Definition
import DiffReach.Text.Character

namespace DiffReach.Source

open Text

def routerNames : List (List Char) :=
  ["app".toList, "router".toList]

def verbNames : List (List Char) :=
  ["get".toList, "post".toList, "put".toList, "delete".toList, "patch".toList]

def endsWord : List Char → Bool
  | [] => true
  | c :: _ => !isWord c

def isRouterCall (cs : List Char) : Bool :=
  routerNames.any fun router =>
    match afterWord? router cs with
    | some ('.' :: rest) =>
        verbNames.any fun verb => ((afterWord? verb rest).map endsWord).getD false
    | _ => false

def bindsRoute : List Char → Bool
  | [] => false
  | c :: cs =>
      (c == '@' && (isRouterCall cs || holdsWord "route(".toList (cs.takeWhile (· != '\n'))))
        || bindsRoute cs

def isRouteDecorator (line : String) : Bool :=
  let cs := trim line.toList
  cs.head? == some '@' && bindsRoute cs

def isPassedOver (line : String) : Bool :=
  let cs := trim line.toList
  cs.isEmpty || cs.head? == some '@'

def decorated? : List String → Option String
  | [] => none
  | line :: rest =>
      match definedName? line with
      | some name => some name
      | none => if isPassedOver line then decorated? rest else none

def entrypointsIn (lookahead : Int) : List String → List String
  | [] => []
  | line :: rest =>
      if isRouteDecorator line then
        (decorated? (rest.take lookahead.toNat)).toList ++ entrypointsIn lookahead rest
      else entrypointsIn lookahead rest

def entrypoints (lookahead : Int) (text : String) : List String :=
  entrypointsIn lookahead (lines text)

def eachAbove (isAbove : Nat → Bool) : List String → Bool
  | [] => true
  | line :: rest =>
      (!isRouteDecorator line || rest.isEmpty || isAbove rest.length) && eachAbove isAbove rest

/-- The number of lines to look at below a decorator. A limit that is no whole number will do where
it never counts: a float that is beyond all lines, and anything where there is no decorator. -/
def wholeLookahead (limit : Value) (lines : List String) : Except Fault Int :=
  match limit.whole? with
  | some n => .ok n
  | none =>
      let isAbove := fun (n : Nat) => match limit with
        | .float x => x.isAbove n
        | _ => false
      if eachAbove isAbove lines then .ok lines.length else .error .notNumeric

end DiffReach.Source
