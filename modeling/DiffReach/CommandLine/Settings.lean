import DiffReach.CommandLine.Shell

namespace DiffReach.CommandLine

open Display

def showLimits (limits : Limits) : Except Fault String :=
  Table.draw ⟨some "Engine limits", ["Limit", "Value"],
    limits.entries.map fun entry => [entry.1, entry.2.text]⟩

def tokenSource (around : Surroundings) (files : Files) : Session String := do
  let table ← Settings.load files around.format
  let stored ← Session.settle (((table.fetch "github").getD (.object [])).field "token")
  if stored.truthy then pure Settings.fileName
  else
    let token ← Settings.token files around.environment "" around.format
    pure (if token = "" then "unset" else "environment (GITHUB_TOKEN)")

def showSettings (around : Surroundings) (args : List String) : Shell Unit := do
  let a ← readCommand [] true args
  let _ ← takeArguments 0 a fun _ => pure ()
  let files ← Shell.files
  let limits ← Shell.session (Settings.limits files around.format)
  let drawn ← Shell.settle (showLimits limits)
  Shell.write drawn
  let source ← Shell.session (tokenSource around files)
  Shell.print ("API URL: " ++ around.addresses.api)
  Shell.print ("App URL: " ++ around.addresses.app)
  Shell.print ("Token:   " ++ source)
  Shell.print ("Config:  " ++ Settings.fileName)

def readLimit (name text : String) : Except Misuse Limits.Amount :=
  match Limits.Key.ofName? name with
  | none =>
      let names := String.intercalate ", " (Ascending.ofList (Limits.Key.all.map Limits.Key.name))
      .error (.badParameter s!"Unknown limit '{name}'. Choose from: {names}")
  | some key =>
      match key.read (.str text) with
      | .error _ =>
          let kind := key.kind
          .error (.badParameter s!"Limit '{name}' expects a {kind}, got '{text}'.")
      | .ok amount =>
          if amount.atMostZero then .error (.badParameter s!"Limit '{name}' must be positive.")
          else .ok amount

def keepSaved (work : Session Settings.Saving) : Shell Unit := do
  let saving ← Shell.session work
  Shell.setFiles saving.files
  let saved ← Shell.settle saving.saved
  if saved then pure () else Shell.finish (.exit 1)

def setLimit (around : Surroundings) (args : List String) : Shell Unit := do
  let a ← readCommand [] true args
  let taken ← takeArguments 2 a fun _ => pure ()
  let name := (taken[0]?).getD ""
  let amount ← Shell.check (readLimit name ((taken[1]?).getD ""))
  let files ← Shell.files
  keepSaved (Settings.saveLimit files name amount.toValue around.format)
  Shell.echo ("Set " ++ name ++ " = " ++ amount.toValue.text)

def hostKeys : List String := ["token", "api_url", "app_url"]

def setHost (around : Surroundings) (args : List String) : Shell Unit := do
  let a ← readCommand [] true args
  let taken ← takeArguments 2 a fun _ => pure ()
  let key := (taken[0]?).getD ""
  if hostKeys.elem key then
    let files ← Shell.files
    keepSaved (Settings.saveHost files key (.str ((taken[1]?).getD "")) around.format)
    Shell.echo ("Saved github." ++ key)
  else Shell.misuse (.badParameter "Key must be one of: token, api_url, app_url")

def settingsCommand (around : Surroundings) (args : List String) : Shell Unit := do
  if args.isEmpty then Shell.finish .help
  else
    let a ← readCommand [] false args
    match a.positional with
    | "show" :: rest => showSettings around rest
    | "set-limit" :: rest => setLimit around rest
    | "set-github" :: rest => setHost around rest
    | _ => Shell.misuse .usage

end DiffReach.CommandLine
