import DiffReach.CommandLine.Commands

open DiffReach

namespace DiffReach.CommandLine

def offline : Host.Network := fun _ _ =>
  .breakdown .connection "No transport"

def readEntry (path : String) : IO (Option Entry) := do
  try
    let bytes ← IO.FS.readBinFile path
    return some (.file bytes)
  catch e =>
    match e with
    | .noFileOrDirectory .. => return none
    | _ => return some .directory

def readVariable (name : String) : IO (Dict String) := do
  match ← IO.getEnv name with
  | some s => return [(name, s)]
  | none => return []

def settingsPath : IO String := do
  match ← IO.getEnv "SCOPEGATE_HOME" with
  | some home => return home ++ "/" ++ Settings.fileName
  | none =>
      let home := (← IO.getEnv "HOME").getD "."
      return home ++ "/.scopegate/" ++ Settings.fileName

def readFiles (settingsPath : String) (args : List String) : IO Files := do
  let mut files : Files := []
  for arg in args do
    match ← readEntry arg with
    | some entry => files := files.put (Path.tidy arg) entry
    | none => pure ()
  match ← readEntry settingsPath with
  | some entry => return files.put Settings.fileName entry
  | none => return files.filter fun entry => entry.1 != Settings.fileName

def isUnchanged (before : Files) (name : String) (bytes : ByteArray) : Bool :=
  match before.fetch name with
  | some (.file old) => old.data == bytes.data
  | _ => false

def writeFiles (settingsPath : String) (before after : Files) : IO Unit := do
  for (name, entry) in after do
    match entry with
    | .directory => pure ()
    | .file bytes =>
        if isUnchanged before name bytes then pure ()
        else IO.FS.writeBinFile (if name = Settings.fileName then settingsPath else name) bytes

def Misuse.text : Misuse → String
  | .missingParameter => "Missing parameter."
  | .noSuchOption => "No such option."
  | .badOptionUsage => "Bad use of an option."
  | .usage => "No such command, or an argument too many."
  | .badParameter message => message

def commandNames : List String :=
  ["scope", "verify", "annotate", "export-graph", "config"]

def Ending.text : Ending → String
  | .help => "Commands: " ++ String.intercalate ", " commandNames
  | .misuse cause => cause.text
  | .exit _ => "Failed to write " ++ Settings.fileName
  | .stopped (.failure failure) => failure.message
  | .stopped (.fault _) => "The command could not be completed."

def reportEvents (verbose : Bool) (events : List Event) : IO Unit := do
  for event in events do
    if verbose || event.level = .warning then IO.eprintln event.line

def perform (args : List String) : IO UInt32 := do
  let settingsPath ← settingsPath
  let files ← readFiles settingsPath args
  let token ← readVariable "GITHUB_TOKEN"
  let api ← readVariable "GITHUB_API_URL"
  let app ← readVariable "SCOPEGATE_APP_URL"
  let environment := token ++ api ++ app
  let work : Session (Except Ending Unit × Console) := do
    let addresses ← Settings.addresses files environment
    run { environment, addresses } args ⟨files, ""⟩
  let (outcome, journal) := work.run offline ⟨[], []⟩
  reportEvents (args.elem "--verbose" || args.elem "-V") journal.events
  match outcome with
  | .error _ =>
      IO.eprintln "The settings could not be read."
      return 1
  | .ok (ending, console) =>
      IO.print console.output
      writeFiles settingsPath files console.files
      match ending with
      | .ok () => return 0
      | .error ending =>
          IO.eprintln ending.text
          return ending.code.toUInt32

end DiffReach.CommandLine

def main (args : List String) : IO UInt32 :=
  CommandLine.perform args
