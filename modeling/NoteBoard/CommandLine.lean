import NoteBoard.Config.Load

/-! The command line: a configuration file, and a bind address that goes before the one of the
file. -/

namespace NoteBoard

structure Options where
  config : Option String := none
  bind : Option String := none
  deriving DecidableEq, Repr

inductive UsageError where
  | unknown (argument : String)
  | missingValue (option : String)
  | repeated (option : String)
  deriving DecidableEq, Repr

def UsageError.message : UsageError → String
  | .unknown argument => "unexpected argument '" ++ argument ++ "' found"
  | .missingValue option => "a value is required for '" ++ option ++ "' but none was supplied"
  | .repeated option => "the argument '" ++ option ++ "' cannot be used multiple times"

namespace Options

def set (options : Options) (option value : String) : Except UsageError Options :=
  if option = "--config" then
    if options.config.isSome then .error (.repeated option)
    else .ok { options with config := some value }
  else if option = "--bind" then
    if options.bind.isSome then .error (.repeated option)
    else .ok { options with bind := some value }
  else .error (.unknown option)

def isOption (argument : String) : Bool := argument = "--config" || argument = "--bind"

def joined? (argument : String) : Option (String × String) :=
  (Text.cut? ['='] argument.toList).map fun (option, value) =>
    (String.ofList option, String.ofList value)

def parseFrom (options : Options) : List String → Except UsageError Options
  | [] => .ok options
  | [argument] =>
    match joined? argument with
    | some (option, value) => options.set option value
    | none =>
      if isOption argument then .error (.missingValue argument) else .error (.unknown argument)
  | argument :: next :: rest =>
    match joined? argument with
    | some (option, value) =>
      match options.set option value with
      | .ok options => parseFrom options (next :: rest)
      | .error error => .error error
    | none =>
      match options.set argument next with
      | .ok options => parseFrom options rest
      | .error error => .error error

def parse (arguments : List String) : Except UsageError Options := parseFrom {} arguments

/-- The bind address of the command line goes before the one of the file. -/
def override (options : Options) (config : Config) : Config :=
  match options.bind with
  | some bindAddress => { config with listener := ⟨bindAddress⟩ }
  | none => config

/-- The configuration to start with. `file` holds the bytes of the named file, if it exists. -/
def configuration (options : Options) (file : Option (List UInt8)) : Except ConfigError Config :=
  match options.config with
  | none => .ok (options.override {})
  | some _ => (Config.load file).map options.override

end Options

end NoteBoard
