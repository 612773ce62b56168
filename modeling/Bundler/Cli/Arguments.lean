/-!
# Arguments of the command line
-/

namespace Bundler.Cli

/-- What a build is asked to do. -/
structure BuildArgs where
  root : String := "."
  config : Option String := none
  entries : List String := []
  folder : Option String := none
  filename : Option String := none
  json : Bool := false
  verbose : Bool := false
deriving DecidableEq, Repr

inductive Command where
  | build (args : BuildArgs)
  | info
deriving DecidableEq, Repr

/-- Why there is nothing to do. -/
inductive Usage where
  | unknownArgument
  | unknownCommand
  | valueMissing
  | repeated
  | valueNotTaken
  | help
  | nothing
deriving DecidableEq, Repr

/-- An option or a flag. -/
inductive Flag where
  | root
  | config
  | entry
  | folder
  | filename
  | json
  | verbose
  | help
deriving DecidableEq, Repr

namespace Flag

def long : Flag → String
  | root => "root"
  | config => "config"
  | entry => "entry"
  | folder => "output-path"
  | filename => "filename"
  | json => "json"
  | verbose => "verbose"
  | help => "help"

def short? : Flag → Option Char
  | root => some 'r'
  | config => some 'c'
  | entry => some 'e'
  | folder => some 'o'
  | filename => some 'f'
  | json => none
  | verbose => some 'v'
  | help => some 'h'

def takesValue : Flag → Bool
  | json => false
  | verbose => false
  | help => false
  | _ => true

end Flag

/-- What was read of the arguments. -/
structure Seen where
  /-- Flags with their values, in order. -/
  given : List (Flag × String) := []
  /-- An option whose value is waited for, or is not taken in yet. -/
  pending : Option (Flag × Option String) := none
  /-- Only places may follow, and there are none. -/
  closed : Bool := false
deriving DecidableEq, Repr

namespace Seen

/-- Takes in a flag; only entries may come again. -/
def give (s : Seen) (flag : Flag) (value : String) : Except Usage Seen :=
  if flag = .help then .error .help
  else if flag ≠ .entry && s.given.any (·.1 == flag) then .error .repeated
  else .ok { s with given := s.given ++ [(flag, value)] }

/-- Takes in the option that is pending. -/
def settle (s : Seen) : Except Usage Seen :=
  match s.pending with
  | none => .ok s
  | some (_, none) => .error .valueMissing
  | some (flag, some value) => { s with pending := none }.give flag value

/-- An option, with a value that is attached to it. -/
def option (s : Seen) (flag : Flag) (attached : Option String) : Except Usage Seen := do
  let s ← s.settle
  match attached with
  | some value => s.give flag value
  | none => return { s with pending := some (flag, none) }

/-- An argument that starts with two dashes. -/
def takeLong (flags : List Flag) (s : Seen) (arg : List Char) : Except Usage Seen :=
  let name := arg.takeWhile (· != '=')
  let attached := match arg.drop name.length with
    | [] => none
    | _ :: value => some (String.ofList value)
  match flags.find? (·.long == String.ofList name) with
  | none => .error .unknownArgument
  | some flag =>
    if flag.takesValue then s.option flag attached
    else if attached.isSome then .error .valueNotTaken
    else do (← s.settle).give flag ""

/-- Letters after one dash; the first that takes a value takes the rest. -/
def takeShort (flags : List Flag) (s : Seen) : List Char → Except Usage Seen
  | [] => .ok s
  | c :: rest =>
    match flags.find? (·.short? == some c) with
    | none => .error .unknownArgument
    | some flag =>
      if flag.takesValue then
        s.option flag <|
          match rest with
          | [] => none
          | '=' :: value => some (String.ofList value)
          | value => some (String.ofList value)
      else do takeShort flags (← (← s.settle).give flag "") rest

/-- An argument that is no flag. -/
def takeValue (s : Seen) (arg : String) : Except Usage Seen :=
  match s.pending with
  | some (flag, none) => .ok { s with pending := some (flag, some arg) }
  | _ => .error .unknownArgument

def take (flags : List Flag) (s : Seen) (arg : String) : Except Usage Seen :=
  if s.closed then .error .unknownArgument
  else
    match arg.toList with
    | ['-', '-'] => .ok { s with closed := true }
    | '-' :: '-' :: rest => takeLong flags s rest
    | ['-'] => takeValue s arg
    | '-' :: rest => takeShort flags s rest
    | _ => takeValue s arg

/-- All arguments of a command that knows some flags. -/
def ofArgs (flags : List Flag) (args : List String) : Except Usage Seen := do
  (← args.foldlM (take flags) {}).settle

def has (s : Seen) (flag : Flag) : Bool := s.given.any (·.1 == flag)

def value? (s : Seen) (flag : Flag) : Option String := s.given.lookup flag

def values (s : Seen) (flag : Flag) : List String :=
  (s.given.filter (·.1 == flag)).map (·.2)

end Seen

namespace Command

def buildFlags : List Flag := [.root, .config, .entry, .folder, .filename, .json, .verbose, .help]

def ofBuild (args : List String) : Except Usage Command := do
  let s ← Seen.ofArgs buildFlags args
  return .build
    { root := (s.value? .root).getD ({} : BuildArgs).root
      config := s.value? .config
      entries := s.values .entry
      folder := s.value? .folder
      filename := s.value? .filename
      json := s.has .json
      verbose := s.has .verbose }

def ofInfo (args : List String) : Except Usage Command := do
  let _ ← Seen.ofArgs [.help] args
  return .info

def names : List String := ["build", "info", "help"]

/-- Help is there for every command, and for none. -/
def helpOn : List String → Usage
  | [] => .help
  | name :: rest =>
    if name = "help" then helpOn rest
    else if names.contains name && rest.isEmpty then .help
    else .unknownCommand

/-- Arguments after two dashes, where no command may stand. -/
def afterDashes : List String → Usage
  | [] => .nothing
  | arg :: _ => if names.contains arg then .unknownArgument else .unknownCommand

/-- The command that arguments stand for. -/
def ofArgs : List String → Except Usage Command
  | [] => .error .nothing
  | arg :: rest =>
    match arg with
    | "build" => ofBuild rest
    | "info" => ofInfo rest
    | "help" => .error (helpOn rest)
    | "--" => .error (afterDashes rest)
    | _ =>
      match arg.toList with
      | '-' :: _ :: _ =>
        match Seen.ofArgs [.help] [arg] with
        | .ok _ => .error .nothing
        | .error usage => .error usage
      | _ => .error .unknownCommand

end Command
end Bundler.Cli
