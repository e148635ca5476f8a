import DiffReach.Host.Client
import DiffReach.Limits
import DiffReach.Path
import DiffReach.Text.Base64

namespace DiffReach.Snapshot

open Host

def pythonSuffixes : List String := [".py"]

inductive Listed where
  | text (path : String)
  | torn (path : Text.Torn)
  deriving DecidableEq

def Listed.shown : Listed → String
  | .text path => path
  | .torn path => path.shown

def Listed.ofValue? : Value → Option Listed
  | .str path => some (.text path)
  | .torn path => some (.torn path)
  | _ => none

def candidate? (suffixes : List String) (entry : Value) : Except Fault (Option Listed) := do
  let type ← entry.field "type"
  let path ← entry.field "path"
  pure (match type with
    | .str "blob" =>
        (Listed.ofValue? path).filter fun listed => suffixes.elem (Path.suffix listed.shown)
    | _ => none)

def candidates (suffixes : List String) : List Value → Except Fault (List Listed)
  | [] => pure []
  | entry :: rest => do
      let path ← candidate? suffixes entry
      let paths ← candidates suffixes rest
      pure (path.toList ++ paths)

def treeFields (client : Client) (repository commit : String) : Session (Option (Dict Value)) :=
  Session.recover (do
    let fields ← client.tree repository commit
    pure (some fields)) fun failure => do
      Session.report (.treeUnavailable repository commit failure)
      pure none

def tree (client : Client) (limits : Limits) (suffixes : List String)
    (repository commit : String) : Session (List Listed) := do
  match ← treeFields client repository commit with
  | none => pure []
  | some fields =>
      let entries := Client.items ((fields.fetch "tree").getD .null)
      let paths ← Session.settle (candidates suffixes entries)
      let isOver ← Session.settle (limits.maxTreeCandidates.isExceededBy paths.length)
      if isOver then Session.report (.treeTruncated paths.length limits.maxTreeCandidates)
      Session.settle (limits.maxTreeCandidates.cut paths)

/-- The text that content encodes, or why it has none. Line feeds inside it do not count. -/
def decodeContent (content : String) : Except Fault (Except Undecodable String) :=
  let cs := content.toList.filter (· != '\n')
  if cs.any fun c => decide (0x80 ≤ c.toNat) then .error .notAscii
  else
    match Text.Base64.decode cs with
    | none => .ok (.error .base64)
    | some bytes =>
        match String.fromUTF8? ⟨bytes.toArray⟩ with
        | none => .ok (.error .utf8)
        | some text => .ok (.ok text)

def encodedContent? (fields : Dict Value) : Option String :=
  let content := (fields.fetch "content").getD .null
  match (fields.fetch "encoding").getD .null with
  | .str "base64" => if content.truthy then some content.text else none
  | _ => none

def file (client : Client) (repository path commit : String) : Session (Option String) := do
  let fetched ← Session.recover (do
    let fields ← client.contents repository path (.str commit)
    pure (some fields)) fun failure => do
      Session.report (.fileUnavailable path commit failure)
      pure none
  match fetched.bind encodedContent? with
  | none => pure none
  | some content =>
      match ← Session.settle (decodeContent content) with
      | .ok text => pure (some text)
      | .error cause =>
          Session.report (.fileUndecodable path cause)
          pure none

/-- As `file`, for a path as it is listed. One that is torn cannot become part of an address. -/
def listedFile (client : Client) (repository commit : String) : Listed → Session (Option String)
  | .text path => file client repository path commit
  | .torn _ => Session.settle (.error .unencodable)

abbrev Fetch :=
  (repository commit : String) → List Listed → Session (List (String × Except Stop (Option String)))

def fetchEach (client : Client) (repository commit : String) :
    List Listed → Session (List (String × Except Stop (Option String)))
  | [] => pure []
  | listed :: rest => do
      let outcome ← Session.hold (listedFile client repository commit listed)
      let outcomes ← fetchEach client repository commit rest
      pure ((listed.shown, outcome) :: outcomes)

def keepTexts : List (String × Except Stop (Option String)) → Session (List (String × String))
  | [] => pure []
  | (path, outcome) :: rest => do
      let text ← Session.release outcome
      let texts ← keepTexts rest
      pure (match text with
        | some text => (path, text) :: texts
        | none => texts)

def sources (client : Client) (limits : Limits) (suffixes : List String)
    (repository commit : String) (fetch : Fetch := fetchEach client) : Session (Dict String) := do
  let paths ← tree client limits suffixes repository commit
  let chosen ← Session.settle (limits.maxFetchedFiles.cut paths)
  if chosen.isEmpty then pure []
  else
    let _ ← Session.settle (limits.fetchWorkers.allows chosen.length)
    let outcomes ← fetch repository commit chosen
    let texts ← keepTexts outcomes
    let found := Dict.gather texts
    Session.report (.filesFetched found.length chosen.length repository commit)
    pure found

end DiffReach.Snapshot
