import DiffReach.CommandLine.Shell

namespace DiffReach.CommandLine

open Display

def echoJson (v : Value) : Shell Unit :=
  Shell.echo (Json.render (.indented 0) v)

def linesText (lines : List Int) : String :=
  String.intercalate ", " ((lines.take 30).map fun n => toString n)
    ++ (if 30 < lines.length then " …" else "")

def scopeRow (scope : Scope) (path : String) : List String :=
  if scope.missingPatch.elem path then [path, "[yellow]whole file (no patch)[/yellow]"]
  else
    let detail := linesText ((scope.changedLines.fetch path).getD [])
    [path, if detail = "" then "-" else detail]

def showScope (scope : Scope) : Shell Unit := do
  let number := scope.pullNumber
  let ref := scope.baseRef
  let base := CheckRun.firstSeven scope.baseCommit
  let head := CheckRun.firstSeven scope.headCommit
  Shell.print s!"[bold]PR #{number}[/bold] {ref}@{base} → {head}"
  let table : Table :=
    ⟨none, ["File", "Changed lines"], scope.changedFiles.map (scopeRow scope)⟩
  let drawn ← Shell.settle table.draw
  Shell.write drawn

def colour : Verdict.Class → String
  | .verified => "red"
  | .refuted => "green"
  | .unknown => "yellow"

def verdictRow (entry : Finding × Verdict) : List String :=
  let (f, v) := entry
  let path := f.filePath
  let line := f.lineNumber
  let shade := colour v.toClass
  let verdict := v.toClass.text
  let function := v.function?.getD ""
  [f.ruleId, s!"{path}:{line}", if function = "" then "-" else function,
    s!"[{shade}]{verdict}[/{shade}]", v.reason]

def showReport (report : Report) : Shell Unit := do
  let table : Table :=
    ⟨some "Reachability verdicts", ["Finding", "Location", "Function", "Verdict", "Reason"],
      report.verdicts.map verdictRow⟩
  let drawn ← Shell.settle table.draw
  Shell.write drawn
  let verified := report.count .verified
  let refuted := report.count .refuted
  let unknown := report.count .unknown
  Shell.print s!"verified={verified} refuted={refuted} unknown={unknown}"

def showCheckRun (payload : CheckRun.Payload) : Shell Unit := do
  let shade := if payload.passed then "green" else "red"
  let title := payload.title
  let drawn ← Shell.settle (panel s!"[bold {shade}]{title}[/bold {shade}]" payload.summary)
  Shell.write drawn
  let shown := payload.remarks.length
  let omitted := payload.omitted
  Shell.print s!"Annotations: {shown} (omitted: {omitted})"

end DiffReach.CommandLine
