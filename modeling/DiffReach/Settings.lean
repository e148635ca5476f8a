import DiffReach.Engine
import DiffReach.Entries
import DiffReach.Toml.Printer
import DiffReach.Toml.Reader

namespace DiffReach

inductive Entry where
  | file (bytes : ByteArray)
  | directory

abbrev Files := Dict Entry

def Entry.ofText (s : String) : Entry :=
  .file s.toUTF8

/-- The text of a file, in which carriage returns end lines too. -/
def Entry.text : Entry → Except Fault String
  | .directory => .error .isDirectory
  | .file bytes =>
      match String.fromUTF8? bytes with
      | none => .error .notUtf8
      | some s => .ok (String.ofList (Text.unifyNewlines s.toList))

namespace Settings

def fileName : String := "config.toml"

structure Format where
  read : String → Except Toml.Failure (Dict Value)
  render : Dict Value → Except Fault String

def Format.toml : Format :=
  ⟨Toml.read, Toml.render⟩

def load (files : Files) (format : Format := .toml) : Session (Dict Value) :=
  match files.fetch fileName with
  | none => pure []
  | some .directory => do
      Session.report (.settingsUnread fileName .directory)
      pure []
  | some entry => do
      let text ← Session.settle entry.text
      match format.read text with
      | .ok table => pure table
      | .error .malformed =>
          Session.report (.settingsUnread fileName .malformed)
          pure []
      | .error (.fault fault) => Session.settle (.error fault)

def loadTable (files : Files) (name : String) (format : Format := .toml) :
    Session (Dict Value) := do
  let table ← load files format
  Session.settle ((table.fetch name).getD (.object [])).entries

def loadHost (files : Files) (format : Format := .toml) : Session (Dict Value) :=
  loadTable files "github" format

def loadLimits (files : Files) (format : Format := .toml) : Session (Dict Value) :=
  loadTable files "limits" format

def write (table : Dict Value) (name key : String) (v : Value) : Except Fault (Dict Value) :=
  match table.fetch name with
  | none => .ok (table.put name (.object [(key, v)]))
  | some (.object fields) => .ok (table.put name (.object (Dict.put fields key v)))
  | some _ => .error .notTable

structure Saving where
  saved : Except Fault Bool
  files : Files

/-- Writes the settings to the file. The file is emptied first, so settings that have no text leave
it empty. -/
def store (files : Files) (table : Dict Value) (format : Format := .toml) : Session Saving :=
  match files.fetch fileName with
  | some .directory => do
      Session.report (.settingsUnwritten fileName .directory)
      pure ⟨.ok false, files⟩
  | _ =>
      match format.render table with
      | .ok text => pure ⟨.ok true, files.put fileName (.ofText text)⟩
      | .error fault => pure ⟨.error fault, files.put fileName (.ofText "")⟩

def save (files : Files) (name key : String) (v : Value) (format : Format := .toml) :
    Session Saving := do
  let table ← load files format
  let table ← Session.settle (write table name key v)
  store files table format

def saveLimit (files : Files) (name : String) (v : Value) (format : Format := .toml) :
    Session Saving :=
  save files "limits" name v format

def saveHost (files : Files) (name : String) (v : Value) (format : Format := .toml) :
    Session Saving :=
  save files "github" name v format

def limits (files : Files) (format : Format := .toml) : Session Limits := do
  let table ← loadLimits files format
  Limits.ofSettings table

def choose (table : Dict Value) (key : String) (environment : Dict String)
    (name fallback : String) : String :=
  let v := (table.fetch key).getD .null
  if v.truthy then v.text else (environment.fetch name).getD fallback

def token (files : Files) (environment : Dict String) (given : String)
    (format : Format := .toml) : Session String := do
  if given != "" then pure given
  else
    let table ← loadHost files format
    pure (choose table "token" environment "GITHUB_TOKEN" "")

structure Addresses where
  api : String
  app : String

def Addresses.default : Addresses :=
  ⟨"https://api.github.com", "http://localhost:3000"⟩

def addresses (files : Files) (environment : Dict String) (format : Format := .toml) :
    Session Addresses := do
  let table ← loadHost files format
  pure {
    api := Text.dropTrailing '/'
      (choose table "api_url" environment "GITHUB_API_URL" Addresses.default.api)
    app := choose table "app_url" environment "SCOPEGATE_APP_URL" Addresses.default.app }

structure Wishes where
  token : String := ""
  api : String := ""
  app : Option String := none
  limits : Option Limits := none

def engine (files : Files) (environment : Dict String) (addresses : Addresses)
    (wishes : Wishes) (format : Format := .toml) : Session Engine := do
  let limits ← match wishes.limits with
    | some limits => pure limits
    | none => limits files format
  let token ← token files environment wishes.token format
  let api := if wishes.api = "" then addresses.api else wishes.api
  let client := Host.Client.connect token api limits.requestTimeout
  pure (.create client limits (wishes.app.getD addresses.app))

end Settings

end DiffReach
