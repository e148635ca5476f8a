import DiffReach.Entries
import DiffReach.Host.Client

namespace DiffReach.Host.Client

def pathOf : Value → Except Fault String
  | .str s => .ok s
  | .torn t => .ok t.shown
  | _ => .error .notText

def queryOf : Value → Option (Dict Value)
  | .object fields => some fields
  | _ => none

def extraOf (v : Value) : Except Fault (Dict Value) :=
  if v.truthy then v.entries else .ok []

def getWith (c : Client) (path query extra : Value) : Session Value := do
  let path ← Session.settle (pathOf path)
  let extra ← Session.settle (extraOf extra)
  c.get path (queryOf query) extra

def call (c : Client) (name : String) (arguments : List Value) : Session Value :=
  let wrong : Session Value := Session.settle (.error .wrongArguments)
  match name with
  | "has_token" => pure (.bool c.hasToken)
  | "get_json" => match arguments with
      | [path] => c.getWith path .null .null
      | [path, query] => c.getWith path query .null
      | [path, query, extra] => c.getWith path query extra
      | _ => wrong
  | "post_json" => match arguments with
      | [path, body] => do
          let path ← Session.settle (pathOf path)
          c.post path body
      | _ => wrong
  | "list_commit_pulls" => match arguments with
      | [repository, commit] => return .list (← c.commitPulls repository.text commit.text)
      | _ => wrong
  | "get_pull" => match arguments with
      | [repository, number] => return .object (← c.pull repository.text number.text)
      | _ => wrong
  | "list_pull_files" => match arguments with
      | [repository, number, page, perPage] =>
          return .list (← c.pullFiles repository.text number.text page perPage)
      | _ => wrong
  | "get_tree" => match arguments with
      | [repository, commit] => return .object (← c.tree repository.text commit.text)
      | _ => wrong
  | "get_contents" => match arguments with
      | [repository, .str path, commit] =>
          return .object (← c.contents repository.text path commit)
      | [_, .torn _, _] => Session.settle (.error .unencodable)
      | _ => wrong
  | "create_check_run" => match arguments with
      | [repository, body] => c.createCheckRun repository.text body
      | _ => wrong
  | _ => Session.settle (.error .unknownCall)

end DiffReach.Host.Client
