import DiffReach.Session
import DiffReach.Text.Character
import DiffReach.Text.Escape

namespace DiffReach.Host

structure Client where
  token : String
  apiUrl : String
  timeout : Value

namespace Client

def connect (token apiUrl : String) (timeout : Value) : Client where
  token
  apiUrl := Text.dropTrailing '/' apiUrl
  timeout

def hasToken (c : Client) : Bool :=
  c.token != ""

def headers (c : Client) (extra : Dict Value) : Dict Value :=
  let base : Dict Value := [
    ("Accept", .str "application/vnd.github+json"),
    ("X-GitHub-Api-Version", .str "2022-11-28")]
  let signed := if c.hasToken then base.put "Authorization" (.str ("Bearer " ++ c.token)) else base
  signed.putAll extra

def url (c : Client) (path : String) : String :=
  c.apiUrl ++ "/" ++ Text.dropLeading '/' path

def errorText (r : Response) : String :=
  if r.body.text = "" then r.reason.getD "" else r.body.text

def decode (r : Response) : Session Value :=
  if r.isOk then
    match r.body.read with
    | .ok v => pure v
    | .error .malformed => Session.fail .undecodable
    | .error .tooManyDigits => Session.stop (.fault .tooManyDigits)
    | .error .tooDeep => Session.stop (.fault .tooDeep)
  else Session.fail (.status r.status (errorText r))

def accept : Reply → Session Value
  | .response r => decode r
  | .breakdown kind message => Session.fail (.breakdown kind message)

def getRequest (c : Client) (path : String) (query : Option (Dict Value)) (extra : Dict Value) :
    Request :=
  ⟨c.url path, .get query, c.headers extra, c.timeout⟩

def postRequest (c : Client) (path : String) (body : Value) : Request :=
  ⟨c.url path, .post body, c.headers [], c.timeout⟩

def read (request : Request) : Session Value := do
  match ← Session.send request with
  | .response r => decode r
  | .breakdown kind message =>
      if kind.isTransient then
        Session.report (.retrying request.url (.breakdown kind message))
        let reply ← Session.send request
        accept reply
      else Session.fail (.breakdown kind message)

def get (c : Client) (path : String) (query : Option (Dict Value)) (extra : Dict Value) :
    Session Value :=
  read (c.getRequest path query extra)

def post (c : Client) (path : String) (body : Value) : Session Value := do
  let reply ← Session.send (c.postRequest path body)
  accept reply

def items : Value → List Value
  | .list items => items
  | _ => []

def fields : Value → Dict Value
  | .object fields => fields
  | _ => []

def pullsAccept : String :=
  "application/vnd.github+json, application/vnd.github.groot-preview+json"

def commitPulls (c : Client) (repository commit : String) : Session (List Value) := do
  let v ← c.get s!"repos/{repository}/commits/{commit}/pulls" none [("Accept", .str pullsAccept)]
  pure (items v)

def pull (c : Client) (repository number : String) : Session (Dict Value) := do
  let v ← c.get s!"repos/{repository}/pulls/{number}" none []
  pure (fields v)

def pullFiles (c : Client) (repository number : String) (page perPage : Value) :
    Session (List Value) := do
  let v ← c.get s!"repos/{repository}/pulls/{number}/files"
    (some [("per_page", perPage), ("page", page)]) []
  pure (items v)

def tree (c : Client) (repository commit : String) : Session (Dict Value) := do
  let v ← c.get s!"repos/{repository}/git/trees/{commit}" (some [("recursive", .int 1)]) []
  pure (fields v)

def contents (c : Client) (repository path : String) (commit : Value) : Session (Dict Value) := do
  let place := Text.percentEncode path
  let v ← c.get s!"repos/{repository}/contents/{place}" (some [("ref", commit)]) []
  pure (fields v)

def createCheckRun (c : Client) (repository : String) (body : Value) : Session Value :=
  c.post s!"repos/{repository}/check-runs" body

end Client

end DiffReach.Host
