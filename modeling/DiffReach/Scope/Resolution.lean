import DiffReach.Host.Client
import DiffReach.Limits
import DiffReach.Patch
import DiffReach.Repository
import DiffReach.Scope

namespace DiffReach.Scope

open Host

/-- The commit of work that was never pushed. -/
def localCommit : String := "local"

/-- The number of the first pull request in a list, zero standing for none. -/
def firstPull : List Value → Except Fault Int
  | [] => .ok 0
  | pull :: _ => do
      let number ← pull.field "number"
      if number.truthy then number.toInt else .ok 0

def listPages (client : Client) (perPage : Value) (repository : String) (pull pages : Int) :
    Nat → Int → Session (List Value)
  | 0, _ => do
      Session.report (.pullFilesTruncated pull pages)
      pure []
  | left + 1, page => do
      let batch ← client.pullFiles repository (toString pull) (.int page) perPage
      if batch.isEmpty then pure []
      else
        let isLast ← Session.settle (perPage.allows batch.length)
        if isLast then pure batch
        else
          let rest ← listPages client perPage repository pull pages left (page + 1)
          pure (batch ++ rest)

def listFiles (client : Client) (limits : Limits) (repository : String) (pull : Int) :
    Session (List Value) :=
  match limits.maxPullFilePages.whole? with
  | some pages =>
      listPages client limits.pullFilesPerPage repository pull pages pages.toNat 1
  | none => Session.settle (.error .notNumeric)

def addFile (scope : Scope) (entry : Value) : Except Fault Scope := do
  let filename ← entry.field "filename"
  let name := Path.normalize filename.textOrEmpty
  if name = "" then pure scope
  else
    let patch ← entry.field "patch"
    let changedFiles := Ascending.insert name scope.changedFiles
    if patch.truthy then
      let lines ← Patch.changedLines patch.text
      pure { scope with changedFiles, changedLines := scope.changedLines.put name lines }
    else
      pure { scope with changedFiles, missingPatch := Ascending.insert name scope.missingPatch }

def addFiles (scope : Scope) : List Value → Except Fault Scope
  | [] => pure scope
  | entry :: rest => do
      let scope ← scope.addFile entry
      addFiles scope rest

def subObject (fields : Dict Value) (name : String) : Value :=
  ((fields.fetch name).getD .null).orElse (.object [])

def ofDetail (repository commit : String) (pull : Int) (detail : Dict Value) :
    Except Fault Scope := do
  let base := subObject detail "base"
  let head := subObject detail "head"
  let baseRef ← base.field "ref"
  let baseCommit ← base.field "sha"
  let headCommit ← head.field "sha"
  pure {
    repository
    pullNumber := pull
    baseRef := baseRef.textOrEmpty
    baseCommit := baseCommit.textOrEmpty
    headCommit := (headCommit.orElse (.str commit)).text
    changedFiles := []
    changedLines := []
    missingPatch := [] }

def lookUp (client : Client) (limits : Limits) (repository commit : String) :
    Session (Option Scope) := do
  let pulls ← client.commitPulls repository commit
  let pull ← Session.settle (firstPull pulls)
  if pull = 0 then
    Session.report (.noPull repository commit)
    pure none
  else
    let detail ← client.pull repository (toString pull)
    let scope ← Session.settle (ofDetail repository commit pull detail)
    let entries ← listFiles client limits repository pull
    let scope ← Session.settle (scope.addFiles entries)
    pure (some scope)

def resolve (client : Client) (limits : Limits) (url commit : Option String) :
    Session (Option Scope) := do
  if !client.hasToken then
    Session.report .scopeWithoutToken
    pure none
  else
    let url := url.getD ""
    let commit := commit.getD ""
    if url = "" || commit = "" || commit = localCommit then pure none
    else
      match Repository.path? url with
      | none =>
          Session.report (.scopeWithoutRepository url)
          pure none
      | some repository =>
          Session.recover (lookUp client limits repository commit) fun failure => do
            Session.report (.scopeUnavailable repository commit failure)
            pure none

end DiffReach.Scope
