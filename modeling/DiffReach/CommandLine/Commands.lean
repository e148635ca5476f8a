import DiffReach.CommandLine.Directory
import DiffReach.CommandLine.Settings
import DiffReach.CommandLine.View

namespace DiffReach.CommandLine

def version : String := "0.3.0"

def scopeCommand (around : Surroundings) (args : List String) : Shell Unit := do
  let a ← readCommand [flag "json" none, valued "token" none] true args
  let taken ← takeArguments 2 a fun _ => pure ()
  let engine ← engine around a
  match ← Shell.session (engine.scope taken[0]? taken[1]?) with
  | none =>
      if a.has "json" then Shell.echo "null"
      else Shell.print "[yellow]No pull request scope found[/yellow]; all lines are in scope."
  | some scope => if a.has "json" then echoJson scope.toValue else showScope scope

def takeWithFile (a : Arguments) (further : Except Ending Unit) : Shell (List String) := do
  let files ← Shell.files
  takeArguments 3 a fun taken => do
    checkFile files ((taken[2]?).getD "")
    further

def verifyCommand (around : Surroundings) (args : List String) : Shell Unit := do
  let a ← readCommand [flag "json" none, valued "token" none] true args
  let taken ← takeWithFile a (pure ())
  let findings ← loadFindings ((taken[2]?).getD "")
  let engine ← engine around a
  let report ← Shell.session (engine.verify taken[0]? taken[1]? findings)
  if a.has "json" then echoJson report.toValue else showReport report

def gate? (a : Arguments) : Option Bool :=
  a.options.reverse.findSome? fun entry =>
    if entry.1 = "passed" then some true else if entry.1 = "failed" then some false else none

def annotateCommand (around : Surroundings) (args : List String) : Shell Unit := do
  let options := [flag "passed" none, flag "failed" none, valued "scan-id" none,
    flag "dry-run" none, valued "token" none]
  let a ← readCommand options true args
  let taken ← takeWithFile a
    (if (gate? a).isNone then .error (.misuse .missingParameter) else pure ())
  let findings ← loadFindings ((taken[2]?).getD "")
  let engine ← engine around a
  let dryRun := a.has "dry-run"
  let (payload, published) ← Shell.session (engine.annotate taken[0]? taken[1]? findings
    ((gate? a).getD false) ((a.value? "scan-id").getD "") (!dryRun))
  showCheckRun payload
  if dryRun then Shell.print "[dim]Dry run: check run not published[/dim]"
  else if published then Shell.print "[green]✓[/green] Check run published"
  else
    Shell.print
      "[yellow]Check run not published[/yellow] (no token, unknown repo, or local commit)"

def exportCommand (around : Surroundings) (args : List String) : Shell Unit := do
  let options := [valued "focus" none, valued "output" (some 'o'), valued "token" none]
  let a ← readCommand options true args
  let taken ← takeArguments 2 a fun _ => pure ()
  let engine ← engine around a
  let found ← Shell.session (engine.snapshot taken[0]? taken[1]?)
  let drawing := found.graph.dot found.extraction.entrypoints ((a.value? "focus").getD "")
  match a.value? "output" with
  | none => Shell.echo drawing
  | some path =>
      writeFile path drawing
      let count := found.graph.edges.length
      let name := Path.tidy path
      Shell.echo s!"Exported {count} functions to {name}"

def run (around : Surroundings) (args : List String) : Shell Unit := do
  if args.isEmpty then Shell.finish .help
  else
    let options := [helpOption, flag "version" (some 'v'), flag "verbose" (some 'V')]
    let a ← Shell.check (Arguments.read options false args)
    match a.first? ["help", "version"] with
    | some "version" => Shell.echo ("Scopegate v" ++ version)
    | some _ => Shell.finish .help
    | none =>
        match a.positional with
        | "scope" :: rest => scopeCommand around rest
        | "verify" :: rest => verifyCommand around rest
        | "annotate" :: rest => annotateCommand around rest
        | "export-graph" :: rest => exportCommand around rest
        | "config" :: rest => settingsCommand around rest
        | _ => Shell.misuse .usage

end DiffReach.CommandLine
