import DiffReach.CommandLine.Arguments
import DiffReach.Display.Frame
import DiffReach.Settings

namespace DiffReach.CommandLine

structure Console where
  files : Files
  output : String

inductive Ending where
  /-- The page that help shows is left out. -/
  | help
  | misuse (cause : Misuse)
  | exit (code : Nat)
  | stopped (cause : Stop)

def Ending.code : Ending → Nat
  | .help => 0
  | .misuse _ => 2
  | .exit code => code
  | .stopped _ => 1

def Shell (α : Type) : Type :=
  Console → Session (Except Ending α × Console)

namespace Shell

variable {α β : Type}

def done (a : α) : Shell α :=
  fun console => pure (.ok a, console)

def andThen (shell : Shell α) (next : α → Shell β) : Shell β :=
  fun console => do
    match ← shell console with
    | (.ok a, console) => next a console
    | (.error ending, console) => pure (.error ending, console)

instance : Monad Shell where
  pure := done
  bind := andThen

def finish (ending : Ending) : Shell α :=
  fun console => pure (.error ending, console)

def misuse (cause : Misuse) : Shell α :=
  finish (.misuse cause)

def session (work : Session α) : Shell α :=
  fun console => do
    match ← Session.hold work with
    | .ok a => pure (.ok a, console)
    | .error cause => pure (.error (.stopped cause), console)

def settle (result : Except Fault α) : Shell α :=
  session (Session.settle result)

def check (result : Except Misuse α) : Shell α :=
  match result with
  | .ok a => done a
  | .error cause => misuse cause

def files : Shell Files :=
  fun console => pure (.ok console.files, console)

def setFiles (files : Files) : Shell Unit :=
  fun console => pure (.ok (), { console with files })

def write (s : String) : Shell Unit :=
  fun console => pure (.ok (), { console with output := console.output ++ s })

def echo (s : String) : Shell Unit :=
  write (s ++ "\n")

def print (s : String) : Shell Unit := do
  let shown ← settle (Display.shownLines s)
  echo (Text.unlines (shown.map String.ofList))

end Shell

structure Surroundings where
  environment : Dict String
  addresses : Settings.Addresses
  format : Settings.Format := .toml

def flag (key : String) (short : Option Char) : OptionSpec :=
  ⟨key, "--" ++ key, short, false⟩

def valued (key : String) (short : Option Char) : OptionSpec :=
  ⟨key, "--" ++ key, short, true⟩

/-- The arguments of a command, unless help is asked for. That comes before all that is wrong with
them but an option that cannot be read. -/
def readCommand (options : List OptionSpec) (mixed : Bool) (args : List String) :
    Shell Arguments := do
  let a ← Shell.check (Arguments.read (helpOption :: options) mixed args)
  if a.has "help" then Shell.finish .help else pure a

/-- The positional arguments of a command, none missing and none too many. Between the two checks
stands whatever else has to hold. -/
def takeArguments (count : Nat) (a : Arguments) (further : List String → Except Ending Unit) :
    Shell (List String) := do
  let taken := a.positional.take count
  if taken.length < count then Shell.misuse .missingParameter
  else
    match further taken with
    | .error ending => Shell.finish ending
    | .ok () => if count < a.positional.length then Shell.misuse .usage else pure taken

def engine (around : Surroundings) (a : Arguments) : Shell Engine := do
  let files ← Shell.files
  Shell.session (Settings.engine files around.environment around.addresses
    { token := (a.value? "token").getD "" } around.format)

end DiffReach.CommandLine
