import DiffReach.Cap
import DiffReach.Host.Request

namespace DiffReach

inductive Level where
  | debug
  | info
  | warning
  deriving DecidableEq

def Level.text : Level → String
  | .debug => "DEBUG"
  | .info => "INFO"
  | .warning => "WARNING"

inductive Undecodable where
  | base64
  | utf8
  deriving DecidableEq

def Undecodable.text : Undecodable → String
  | .base64 => "<Error>"
  | .utf8 => "<UnicodeDecodeError>"

inductive Unreadable where
  | malformed
  | directory
  deriving DecidableEq

def Unreadable.text : Unreadable → String
  | .malformed => "<TomlDecodeError>"
  | .directory => "<IsADirectoryError>"

inductive Event where
  | limitUnreadable (name : String) (value : Value) (kind : String)
  | limitNotPositive (name : String) (value : Value)
  | retrying (url : String) (failure : Host.Failure)
  | scopeWithoutToken
  | scopeWithoutRepository (url : String)
  | scopeUnavailable (repository commit : String) (failure : Host.Failure)
  | noPull (repository commit : String)
  | pullFilesTruncated (pull pages : Int)
  | treeUnavailable (repository commit : String) (failure : Host.Failure)
  | treeTruncated (candidates : Nat) (limit : Value)
  | fileUnavailable (path commit : String) (failure : Host.Failure)
  | fileUndecodable (path : String) (cause : Undecodable)
  | filesFetched (fetched candidates : Nat) (repository commit : String)
  | snapshotWithoutRepository (url : String)
  | graphBuilt (functions entrypoints : Nat)
  | findingsTruncated (limit : Value) (given : Nat)
  | publishWithoutToken
  | publishFailed (repository commit : String) (failure : Host.Failure)
  | settingsUnread (file : String) (cause : Unreadable)
  | settingsUnwritten (file : String) (cause : Unreadable)

namespace Event

def level : Event → Level
  | .limitUnreadable .. | .limitNotPositive .. => .warning
  | .retrying .. => .debug
  | .scopeWithoutToken | .scopeWithoutRepository _ => .info
  | .scopeUnavailable .. => .warning
  | .noPull .. => .debug
  | .pullFilesTruncated .. | .treeUnavailable .. => .warning
  | .treeTruncated .. => .info
  | .fileUnavailable .. => .warning
  | .fileUndecodable .. => .info
  | .filesFetched .. => .debug
  | .snapshotWithoutRepository _ => .warning
  | .graphBuilt .. => .debug
  | .findingsTruncated .. | .publishWithoutToken => .info
  | .publishFailed .. | .settingsUnread .. | .settingsUnwritten .. => .warning

def message : Event → String
  | .limitUnreadable name value kind =>
      "Ignoring limit " ++ name ++ "=" ++ value.inner ++ ": expected " ++ kind
  | .limitNotPositive name value =>
      "Ignoring limit " ++ name ++ "=" ++ value.inner ++ ": must be positive"
  | .retrying url failure => "GET " ++ url ++ " failed (" ++ failure.message ++ "), retrying once"
  | .scopeWithoutToken => "No GitHub token configured; diff scope disabled"
  | .scopeWithoutRepository url => "Not a GitHub repository URL: " ++ url
  | .scopeUnavailable repository commit failure =>
      "Diff scope unavailable for " ++ repository ++ "@" ++ commit ++ ": " ++ failure.message
  | .noPull repository commit => "No pull request associated with " ++ repository ++ "@" ++ commit
  | .pullFilesTruncated pull pages => s!"PR #{pull} file list truncated at {pages} pages"
  | .treeUnavailable repository commit failure =>
      "Could not list tree for " ++ repository ++ "@" ++ commit ++ ": " ++ failure.message
  | .treeTruncated candidates limit =>
      let kept := limit.wholePart
      s!"Tree has {candidates} candidate files; keeping first {kept}"
  | .fileUnavailable path commit failure =>
      "Could not fetch " ++ path ++ "@" ++ commit ++ ": " ++ failure.message
  | .fileUndecodable path cause => "Skipping undecodable file " ++ path ++ ": " ++ cause.text
  | .filesFetched fetched candidates repository commit =>
      s!"Fetched {fetched}/{candidates} source files for {repository}@{commit}"
  | .snapshotWithoutRepository url => "Not a GitHub repository URL: " ++ url
  | .graphBuilt functions entrypoints =>
      s!"Call graph: {functions} functions, {entrypoints} entrypoints"
  | .findingsTruncated limit given =>
      let kept := limit.wholePart
      s!"Verifying first {kept} of {given} findings"
  | .publishWithoutToken => "No GitHub token configured; check run not published"
  | .publishFailed repository commit failure =>
      "Failed to create check run for " ++ repository ++ "@" ++ commit ++ ": " ++ failure.message
  | .settingsUnread file cause => "Could not read " ++ file ++ ": " ++ cause.text
  | .settingsUnwritten file cause => "Could not write " ++ file ++ ": " ++ cause.text

def line (e : Event) : String :=
  e.level.text ++ " " ++ e.message

end Event

end DiffReach
