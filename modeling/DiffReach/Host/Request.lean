import DiffReach.Json.Reader
import DiffReach.Json.Printer

namespace DiffReach.Host

inductive Action where
  | get (query : Option (Dict Value))
  | post (body : Value)

structure Request where
  url : String
  action : Action
  headers : Dict Value
  timeout : Value

def Request.isPost (r : Request) : Bool :=
  match r.action with
  | .get _ => false
  | .post _ => true

def queryText (query : Dict Value) : String :=
  String.intercalate "&" (query.map fun entry => entry.1 ++ "=" ++ entry.2.text)

def Request.line (r : Request) : String :=
  match r.action with
  | .post _ => "POST " ++ r.url
  | .get none => "GET " ++ r.url
  | .get (some []) => "GET " ++ r.url
  | .get (some query) => "GET " ++ r.url ++ "?" ++ queryText query

inductive Breakdown where
  | connection
  | tls
  | proxy
  | connectTimeout
  | timeout
  | readTimeout
  | tooManyRedirects
  | chunkedEncoding
  | contentDecoding
  | http
  | other
  deriving DecidableEq

def Breakdown.isTransient : Breakdown → Bool
  | .connection | .tls | .proxy | .connectTimeout | .timeout | .readTimeout => true
  | _ => false

inductive Body where
  | document (v : Value)
  | raw (s : String)

def Body.text : Body → String
  | .document v => Json.render .line v
  | .raw s => s

def Body.read : Body → Except Json.Error Value
  | .document v => .ok v
  | .raw s => Json.read s

structure Response where
  status : Int
  body : Body
  reason : Option String

def Response.isOk (r : Response) : Bool :=
  !(decide (400 ≤ r.status) && decide (r.status < 600))

inductive Reply where
  | response (r : Response)
  | breakdown (kind : Breakdown) (message : String)

/-- A network answers a request in view of those sent before it. -/
abbrev Network := List Request → Request → Reply

inductive Failure where
  | status (code : Int) (text : String)
  | breakdown (kind : Breakdown) (message : String)
  | undecodable
  deriving DecidableEq

def Failure.message : Failure → String
  | .status code text => s!"GitHub API {code}: {text}"
  | .breakdown _ message => message
  | .undecodable => "<JSONDecodeError>"

abbrev Script := Dict (List Reply)

namespace Script

def keys (r : Request) : List String :=
  match r.action with
  | .post _ => ["POST " ++ r.url]
  | .get none => ["GET " ++ r.url]
  | .get (some query) => ["GET " ++ r.url ++ "?" ++ queryText query, "GET " ++ r.url]

def entryFor (script : Script) (r : Request) : Option (String × List Reply) :=
  (keys r).findSome? fun key => (script.fetch key).map fun replies => (key, replies)

def notFound : Reply :=
  .response ⟨404, .raw "Not Found", none⟩

def due : List Reply → Nat → Reply
  | [], _ => notFound
  | [last], _ => last
  | first :: _ :: _, 0 => first
  | _ :: second :: rest, n + 1 => due (second :: rest) n

def network (script : Script) : Network := fun earlier request =>
  match entryFor script request with
  | none => notFound
  | some (key, replies) =>
      due replies (earlier.filter fun r => (entryFor script r).map Prod.fst == some key).length

end Script

end DiffReach.Host
