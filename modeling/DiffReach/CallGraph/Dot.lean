import DiffReach.CallGraph.Reachability
import DiffReach.Text.Character

namespace DiffReach.CallGraph

structure Selection where
  nodes : List String
  edges : List (String × String)

def drawable (g : CallGraph) : Selection :=
  let nodes := Ascending.ofList g.edges.names
  { nodes
    edges := nodes.flatMap fun source =>
      ((g.callees source).filter g.edges.holds).map fun target => (source, target) }

def matchesFocus (focus name : String) : Bool :=
  Text.occursIn focus.toList name.toList

def Selection.around (all : Selection) (focus : String) : Selection :=
  let core := all.nodes.filter (matchesFocus focus)
  if focus = "" || core.isEmpty then all
  else
    let edges := all.edges.filter fun edge => core.elem edge.1 || core.elem edge.2
    { nodes := Ascending.ofList (core ++ edges.map Prod.fst ++ edges.map Prod.snd)
      edges }

def escapeQuote (c : Char) : List Char :=
  if c = '"' then ['\\', '"'] else [c]

def dotQuote (s : String) : String :=
  String.ofList ('"' :: (s.toList.flatMap escapeQuote ++ ['"']))

def nodeLine (g : CallGraph) (entrypoints : List String) (parents : Parents) (name : String) :
    String :=
  let attributes :=
    ["label=" ++ dotQuote name]
      ++ (match g.definedIn.fetch name with
          | some file => ["tooltip=" ++ dotQuote file]
          | none => [])
      ++ (if entrypoints.elem name then ["shape=box"] else [])
      ++ (if parents.holds name then ["style=filled fillcolor=\"#f6c7c7\""] else [])
  "  " ++ dotQuote name ++ " [" ++ String.intercalate " " attributes ++ "];"

def edgeLine (edge : String × String) : String :=
  "  " ++ dotQuote edge.1 ++ " -> " ++ dotQuote edge.2 ++ ";"

def dot (g : CallGraph) (entrypoints : List String) (focus : String) : String :=
  let parents := g.reach entrypoints
  let selection := g.drawable.around focus
  Text.unlines (
    ["digraph CallGraph \x7b", "  rankdir=LR;"]
      ++ selection.nodes.map (g.nodeLine entrypoints parents)
      ++ selection.edges.map edgeLine
      ++ ["\x7d"])

end DiffReach.CallGraph
