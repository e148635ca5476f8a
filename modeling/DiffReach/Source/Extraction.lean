import DiffReach.Source.Call
import DiffReach.Source.Entrypoint

namespace DiffReach.Source

structure Extractor where
  lookahead : Value := .int 5
  stoplist : List String := keywords

structure Extraction where
  bodies : Dict (List String)
  definedIn : Dict String
  entrypoints : List String

def Extraction.empty : Extraction :=
  ⟨[], [], []⟩

def Extractor.entrypoints (x : Extractor) (text : String) : Except Fault (List String) :=
  (wholeLookahead x.lookahead (Text.lines text)).map fun lookahead =>
    Source.entrypoints lookahead text

def Extraction.add (found : Extraction) (file : String × String) (names : List String) :
    Extraction :=
  let bodies := functionBodies file.2
  { bodies := found.bodies.putAll bodies
    definedIn := found.definedIn.putAll (bodies.map fun entry => (entry.1, file.1))
    entrypoints := names.foldl (fun names name => Ascending.insert name names) found.entrypoints }

def Extractor.extractFrom (x : Extractor) (found : Extraction) :
    Dict String → Except Fault Extraction
  | [] => .ok found
  | file :: files => do
      let names ← x.entrypoints file.2
      extractFrom x (found.add file names) files

def Extractor.extract (x : Extractor) (sources : Dict String) : Except Fault Extraction :=
  x.extractFrom .empty sources

end DiffReach.Source
