import DiffReach.CheckRun.Payload
import DiffReach.Scope.Resolution

namespace DiffReach.CheckRun

open Host

def defaultName : String := "Scopegate"

structure Emitter where
  client : Client
  limits : Limits
  appUrl : String
  name : String

namespace Emitter

def create (client : Client) (limits : Limits) (appUrl name : String) : Emitter where
  client
  limits
  appUrl := Text.dropTrailing '/' appUrl
  name

def detailsUrl (e : Emitter) (scanId : String) : String :=
  e.appUrl ++ "/dashboard/scans/" ++ scanId

def build (e : Emitter) (passed : Bool) (findings : List Finding) (scope : Option Scope)
    (scanId : String) : Except Fault Payload := do
  let found := candidates findings
  let shown ← e.limits.maxAnnotations.cut found
  let remarks ← shown.mapM (Remark.ofFinding e.limits)
  let omitted := found.length - remarks.length
  let detailsUrl := e.detailsUrl scanId
  pure {
    passed
    summary := summary scope found remarks.length omitted detailsUrl
    remarks
    omitted
    detailsUrl }

/-- Creates the check run and says whether it was created; it is never tried twice. -/
def publish (e : Emitter) (payload : Payload) (url commit : Option String) : Session Bool := do
  if !e.client.hasToken then
    Session.report .publishWithoutToken
    pure false
  else
    let commit := commit.getD ""
    match Repository.path? (url.getD "") with
    | none => pure false
    | some repository =>
        if commit = "" || commit = Scope.localCommit then pure false
        else
          Session.recover (do
            let _ ← e.client.createCheckRun repository (payload.requestBody e.name commit)
            pure true) fun failure => do
              Session.report (.publishFailed repository commit failure)
              pure false

def emit (e : Emitter) (passed : Bool) (findings : List Finding) (scope : Option Scope)
    (url commit : Option String) (scanId : String) : Session Payload := do
  let payload ← Session.settle (e.build passed findings scope scanId)
  let _ ← e.publish payload url commit
  pure payload

end Emitter

end DiffReach.CheckRun
