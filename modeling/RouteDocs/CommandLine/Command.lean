import RouteDocs.OpenApi.Publication

/-!
# Commands

A command line names one of three commands: build a document, check the
declarations, or show one documentation block. Each works on one source file.
Verbosity is chosen before the command.
-/

namespace RouteDocs.CommandLine
structure OptionSpec (κ : Type) where
  key : κ
  long : String
  short? : Option Char := none
  takesValue : Bool := true

inductive ArgumentFault where
  | unknownOption (argument : String)
  | unexpectedValue (argument : String)
  | missingValue (argument : String)

abbrev Settings (κ : Type) := List (κ × String)

structure Reading (κ : Type) where
  settings : Settings κ
  awaiting? : Option κ := none

def readLong {κ : Type} (options : List (OptionSpec κ)) (argument : String) :
    Except ArgumentFault (Reading κ) :=
  let body := argument.toList.drop 2
  let name := String.ofList (body.takeWhile (· ≠ '='))
  let value? := match body.dropWhile (· ≠ '=') with
    | [] => none
    | _ :: value => some (String.ofList value)
  match options.find? (·.long = name) with
  | none => .error (.unknownOption argument)
  | some option =>
    match option.takesValue, value? with
    | true, some value => .ok { settings := [(option.key, value)] }
    | true, none => .ok { settings := [], awaiting? := some option.key }
    | false, some _ => .error (.unexpectedValue argument)
    | false, none => .ok { settings := [(option.key, "")] }

def readShorts {κ : Type} (options : List (OptionSpec κ)) (argument : String) :
    Chars -> Except ArgumentFault (Reading κ)
  | [] => .ok { settings := [] }
  | c :: rest =>
    match options.find? (·.short? = some c) with
    | none => .error (.unknownOption argument)
    | some option =>
      if option.takesValue then
        match rest with
        | [] => .ok { settings := [], awaiting? := some option.key }
        | value => .ok { settings := [(option.key, String.ofList value)] }
      else do
        let reading <- readShorts options argument rest
        return { reading with settings := (option.key, "") :: reading.settings }

def isOption (argument : String) : Bool := match argument.toList with
  | '-' :: _ :: _ => true
  | _ => false

def readOption {κ : Type} (options : List (OptionSpec κ)) (argument : String) :
    Except ArgumentFault (Reading κ) :=
  match argument.toList with
  | '-' :: '-' :: _ => readLong options argument
  | chars => readShorts options argument chars.tail

def readArguments {κ : Type} (options : List (OptionSpec κ)) (operandsEnd : Bool) :
    List String -> Except ArgumentFault (Settings κ × List String)
  | [] => .ok ([], [])
  | argument :: rest =>
    if argument = "--" then .ok ([], rest)
    else if isOption argument then
      match readOption options argument with
      | .error fault => .error fault
      | .ok reading =>
        match reading.awaiting?, rest with
        | none, rest => do
          let (settings, operands) <- readArguments options operandsEnd rest
          return (reading.settings ++ settings, operands)
        | some _, [] => .error (.missingValue argument)
        | some key, value :: rest => do
          let (settings, operands) <- readArguments options operandsEnd rest
          return (reading.settings ++ (key, value) :: settings, operands)
    else if operandsEnd then .ok ([], argument :: rest)
    else do
      let (settings, operands) <- readArguments options operandsEnd rest
      return (settings, argument :: operands)

namespace Settings
variable {κ : Type} [DecidableEq κ] (settings : Settings κ) (key : κ)

def values : List String := (settings.filter fun setting => setting.1 = key).map (·.2)
def last? : Option String := (settings.values key).getLast?

def has : Bool := settings.any fun setting => setting.1 = key
end Settings

open OpenApi (Format)

inductive Command where
  | build (source : String) (output? : Option String) (format : Format) (routes : List String)
      (version : String)
  | check (source : String)
  | showBlock (source : String)

def Command.source : Command -> String
  | build source .. | check source | showBlock source => source

structure Invocation where
  verbose : Bool
  command : Command

inductive Refusal where
  | usage
  | help
  | nullInPath

inductive OptionKey where
  | help
  | verbose
  | output
  | format
  | route
  | version
deriving DecidableEq

def helpOption : OptionSpec OptionKey := { key := .help, long := "help", takesValue := false }

def leadingOptions : List (OptionSpec OptionKey) :=
  [helpOption, { key := .verbose, long := "verbose", short? := some 'v', takesValue := false }]

def buildOptions : List (OptionSpec OptionKey) := [helpOption,
    { key := .output, long := "output", short? := some 'o' },
    { key := .format, long := "format" },
    { key := .route, long := "route" },
    { key := .version, long := "openapi-version" }]

def readCommand (options : List (OptionSpec OptionKey)) (arguments : List String) :
    Except Refusal (Settings OptionKey × List String) :=
  match readArguments options false arguments with
  | .error _ => .error .usage
  | .ok (settings, operands) =>
    if settings.has .help then .error .help else .ok (settings, operands)

def readPath (path : String) : Except Refusal String :=
  if path.toList.contains '\x00' then .error .nullInPath else .ok path

def readSource : List String -> Except Refusal String
  | [] => .error .usage
  | first :: others => do
    let source <- readPath first
    if others.isEmpty then return source else throw .usage

def checkSetting (settings : Settings OptionKey) : OptionKey -> Except Refusal Unit
  | .output => discard (((settings.last? .output).map readPath).getD (.ok ""))
  | .format =>
    if ((settings.last? .format).bind Format.ofName?).isSome then .ok () else .error .usage
  | _ => .ok ()

variable (preset? : Option String) (arguments : List String)

def presetVersion : String := match preset? with
  | none | some "" => OpenApi.formatVersion
  | some version => version

def readBuild : Except Refusal Command := do
  let (settings, operands) <- readCommand buildOptions arguments
  for (key, _) in settings do checkSetting settings key
  let source <- readSource operands
  return .build source (settings.last? .output)
    (((settings.last? .format).bind Format.ofName?).getD .json) (settings.values .route)
    ((settings.last? .version).getD (presetVersion preset?))

def readPlain (command : String -> Command) (arguments : List String) : Except Refusal Command := do
  let (_, operands) <- readCommand [helpOption] arguments
  return command (<- readSource operands)

def readNamed : List String -> Except Refusal Command
  | "build" :: rest => readBuild preset? rest
  | "check" :: rest => readPlain .check rest
  | "parse-doc" :: rest => readPlain .showBlock rest
  | _ => .error .usage

def Invocation.ofArguments : Except Refusal Invocation :=
  if arguments.isEmpty then .error .help
  else match readArguments leadingOptions true arguments with
    | .error _ => .error .usage
    | .ok (settings, operands) =>
      if settings.has .help then .error .help
      else (readNamed preset? operands).map fun command => ⟨settings.has .verbose, command⟩
end RouteDocs.CommandLine
