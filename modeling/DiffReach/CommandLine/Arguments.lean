namespace DiffReach.CommandLine

inductive Misuse where
  | missingParameter
  | noSuchOption
  | badOptionUsage
  | usage
  | badParameter (message : String)
  deriving DecidableEq

structure OptionSpec where
  key : String
  long : String
  short : Option Char
  takesValue : Bool

def helpOption : OptionSpec :=
  ⟨"help", "--help", none, false⟩

structure Arguments where
  options : List (String × String)
  positional : List String

inductive Reading where
  | complete (options : List (String × String))
  | needsValue (options : List (String × String)) (key : String)

def splitLong (arg : List Char) : String × Option String :=
  match arg.dropWhile (· != '=') with
  | [] => (String.ofList arg, none)
  | _ :: v => (String.ofList (arg.takeWhile (· != '=')), some (String.ofList v))

/-- The options in a group of letters; a letter with a value takes the rest of the group. -/
def readLetters (specs : List OptionSpec) (before : List (String × String)) :
    List Char → Except Misuse Reading
  | [] => .ok (.complete before)
  | c :: cs =>
      match specs.find? fun spec => spec.short == some c with
      | none => .error .noSuchOption
      | some spec =>
          if spec.takesValue then
            if cs.isEmpty then .ok (.needsValue before spec.key)
            else .ok (.complete (before ++ [(spec.key, String.ofList cs)]))
          else readLetters specs (before ++ [(spec.key, "")]) cs

def readOption (specs : List OptionSpec) (arg : String) : Except Misuse Reading :=
  let (name, attached) := splitLong arg.toList
  match specs.find? fun spec => spec.long == name with
  | some spec =>
      match spec.takesValue, attached with
      | true, some v => .ok (.complete [(spec.key, v)])
      | true, none => .ok (.needsValue [] spec.key)
      | false, some _ => .error .badOptionUsage
      | false, none => .ok (.complete [(spec.key, "")])
  | none =>
      match arg.toList with
      | '-' :: '-' :: _ => .error .noSuchOption
      | _ :: letters => readLetters specs [] letters
      | [] => .error .noSuchOption

def isOption (arg : String) : Bool :=
  match arg.toList with
  | '-' :: _ :: _ => true
  | _ => false

/-- Reads arguments after those read before. If options may not stand behind other arguments, the
first other argument ends them. -/
def readArguments (specs : List OptionSpec) (mixed : Bool) (before : Arguments) :
    List String → Except Misuse Arguments
  | [] => .ok before
  | arg :: rest =>
      if arg = "--" then .ok { before with positional := before.positional ++ rest }
      else if isOption arg then
        match readOption specs arg with
        | .error misuse => .error misuse
        | .ok (.complete options) =>
            readArguments specs mixed { before with options := before.options ++ options } rest
        | .ok (.needsValue options key) =>
            match rest with
            | [] => .error .badOptionUsage
            | v :: rest =>
                readArguments specs mixed
                  { before with options := before.options ++ options ++ [(key, v)] } rest
      else if mixed then
        readArguments specs mixed { before with positional := before.positional ++ [arg] } rest
      else .ok { before with positional := before.positional ++ arg :: rest }

namespace Arguments

def read (specs : List OptionSpec) (mixed : Bool) (args : List String) : Except Misuse Arguments :=
  readArguments specs mixed ⟨[], []⟩ args

def value? (a : Arguments) (key : String) : Option String :=
  a.options.reverse.lookup key

def has (a : Arguments) (key : String) : Bool :=
  (a.value? key).isSome

def first? (a : Arguments) (keys : List String) : Option String :=
  (a.options.map Prod.fst).find? keys.elem

end Arguments

end DiffReach.CommandLine
