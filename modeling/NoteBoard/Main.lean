import NoteBoard.CommandLine
import NoteBoard.Paste

/-! The command: checks what a server would start with, and reports it. -/

open NoteBoard

def fileBytes? (path : String) : IO (Option (List UInt8)) := do
  try return some (← IO.FS.readBinFile path).toList
  catch _ => return none

def fail (code : UInt32) (message : String) : IO UInt32 := do
  IO.eprintln ("error: " ++ message)
  return code

def report (config : Config) : IO UInt32 := do
  IO.println ("bind address: " ++ config.listener.bindAddress)
  IO.println ("database: " ++ config.store.path)
  IO.println ("least time between requests: " ++ toString config.throttle.minInterval ++ " ns")
  IO.println ("request timeout: " ++ toString config.timeouts.request ++ " s")
  IO.println ("log filter: " ++ logDirectives config.observability.logLevel)
  return 0

def reportPaste (paste : Config.PasteService) : IO UInt32 := do
  if paste.enabled then
    match Paste.Service.open? paste.endpoint with
    | .ok service =>
      IO.println ("paste service: " ++ service.endpoint.render)
      return 0
    | .error error => fail 1 error.message
  else
    IO.println "paste service: disabled"
    return 0

def main (arguments : List String) : IO UInt32 := do
  match Options.parse arguments with
  | .error error => fail 2 error.message
  | .ok options =>
    let file ← match options.config with
      | some path => fileBytes? path
      | none => pure none
    match options.configuration file with
    | .error (.invalid violations) => fail 1 (((ConfigError.invalid violations).message?).getD "")
    | .error .unreadable => fail 1 "the configuration file cannot be read"
    | .error .malformed => fail 1 "the configuration file is malformed"
    | .ok config =>
      let code ← report config
      if code = 0 then reportPaste config.paste else return code
