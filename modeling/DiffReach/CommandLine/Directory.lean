import DiffReach.CommandLine.Shell

namespace DiffReach.CommandLine

inductive Place where
  | found (name : String) (entry : Entry)
  /-- Nowhere yet, but a file of that name can be made. -/
  | free (name : String)
  | missing
  /-- Through a file, as if that were a directory. -/
  | throughFile
  /-- To a name in a directory that is not known. -/
  | beyond
  /-- To the device that is always empty, whatever is written to it. -/
  | sink

/-- The name of a file below a list of directories, the innermost one first. -/
def nameBelow (directories : List (List Char)) : String :=
  String.ofList (List.intercalate ['/'] directories.reverse)

/-- What a name stands for; a directory is there when something is in it. -/
def entryNamed? (files : Files) (name : String) : Option Entry :=
  match files.fetch name with
  | some entry => some entry
  | none =>
      if files.any fun entry => (name ++ "/").isPrefixOf entry.1 then some .directory else none

/-- Follows a path from a directory. Outside the directory of the program nothing is known but that
every step up leads to a directory. -/
def follow (files : Files) : Option (List (List Char)) → List (List Char) → Place
  | some inside, [] => .found (nameBelow inside) .directory
  | none, [] => .found ".." .directory
  | inside, step :: rest =>
      if step.isEmpty || step == ['.'] then follow files inside rest
      else if step == ['.', '.'] then
        match inside with
        | some (_ :: outer) => follow files (some outer) rest
        | _ => follow files none rest
      else match inside with
        | none => if rest.isEmpty then .beyond else .missing
        | some directories =>
            let name := nameBelow (step :: directories)
            match entryNamed? files name with
            | some .directory => follow files (some (step :: directories)) rest
            | some (.file bytes) =>
                if rest.isEmpty then .found name (.file bytes) else .throughFile
            | none => if rest.isEmpty then .free name else .missing

def placeOf (files : Files) (path : String) : Except Fault Place :=
  let cs := path.toList
  if cs.elem (Char.ofNat 0) then .error .badPath
  else if cs.isEmpty then .ok .missing
  else if path = "/dev/null" then .ok .sink
  else if cs.head? == some '/' then .ok (follow files none (Text.splitOn '/' cs))
  else .ok (follow files (some []) (Text.splitOn '/' cs))

def checkFile (files : Files) (path : String) : Except Ending Unit :=
  match placeOf files path with
  | .error fault => .error (.stopped (.fault fault))
  | .ok (.found _ (.file _)) => pure ()
  | .ok .sink => pure ()
  | .ok (.found _ .directory) =>
      .error (.misuse (.badParameter ("File " ++ Text.quote path ++ " is a directory.")))
  | .ok _ => .error (.misuse (.badParameter ("File " ++ Text.quote path ++ " does not exist.")))

def notFindings : Misuse :=
  .badParameter "Findings file must hold a list or an object with a 'findings' list."

def findingItems : Value → Except Misuse (List Value)
  | .list items => pure items
  | .object fields =>
      match Dict.fetch fields "findings" with
      | none => pure []
      | some (.list items) => pure items
      | some _ => .error notFindings
  | _ => .error notFindings

def isObject : Value → Bool
  | .object _ => true
  | _ => false

def beforeCause (message : String) : String :=
  match Text.splitAtMost 1 [':', ' '] message.toList with
  | [] => message
  | head :: _ => String.ofList head

def unreadFindings (path : String) : Misuse :=
  .badParameter (beforeCause ("Could not read findings from " ++ Path.tidy path))

def readFindings (path text : String) (bounds : Json.Bounds := Json.readerBounds) :
    Except Ending (List Finding) :=
  match Json.readWith bounds text with
  | .error .malformed => .error (.misuse (unreadFindings path))
  | .error .tooManyDigits => .error (.stopped (.fault .tooManyDigits))
  | .error .tooDeep => .error (.stopped (.fault .tooDeep))
  | .ok document =>
      match findingItems document with
      | .error misuse => .error (.misuse misuse)
      | .ok items =>
          match (items.filter isObject).mapM Finding.ofValue with
          | .error fault => .error (.stopped (.fault fault))
          | .ok findings => .ok findings

def loadFindings (path : String) (bounds : Json.Bounds := Json.readerBounds) :
    Shell (List Finding) := do
  let files ← Shell.files
  match ← Shell.settle (placeOf files path) with
  | .found _ entry =>
      let text ← Shell.settle entry.text
      match readFindings path text bounds with
      | .ok findings => pure findings
      | .error ending => Shell.finish ending
  | _ => Shell.misuse (unreadFindings path)

/-- Writes a file. One that is made where nothing is known is not kept track of. -/
def writeFile (path text : String) : Shell Unit := do
  let files ← Shell.files
  match ← Shell.settle (placeOf files (Path.tidy path)) with
  | .found _ .directory => Shell.settle (.error .isDirectory)
  | .found name (.file _) => Shell.setFiles (files.put name (.ofText text))
  | .free name => Shell.setFiles (files.put name (.ofText text))
  | .missing => Shell.settle (.error .notFound)
  | .throughFile => Shell.settle (.error .notDirectory)
  | .beyond => pure ()
  | .sink => pure ()

end DiffReach.CommandLine
