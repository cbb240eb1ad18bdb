import NoteBoard.Config.Basic
import NoteBoard.Net.SocketAddress
import NoteBoard.Text.Blank
import NoteBoard.Text.Quoted
import NoteBoard.Url.Parser

/-! What a configuration has to satisfy. All violations are reported, each field at most once and
in the order of the fields. -/

namespace NoteBoard

structure Violation where
  field : String
  message : String
  deriving DecidableEq, Repr

def Violation.render (violation : Violation) : String := violation.field ++ ": " ++ violation.message

namespace Config

def addressFault (text : String) : Option String :=
  if (SocketAddress.parse? text).isSome then none
  else some ("not a socket address: " ++ Quoted.render text)

def zeroFault (n : Nat) : Option String := if n = 0 then some "must be greater than 0" else none

def pathFault (path : String) : Option String :=
  if Text.trim path = "" then some "must not be empty" else none

/-- The paste service is reached over the web. -/
def endpointFault (endpoint : String) : Option String :=
  match Url.parse endpoint with
  | .ok url =>
    if url.isHttp then none
    else some ("unsupported scheme " ++ Quoted.render (String.ofList url.scheme))
  | .error cause => some cause.message

/-- A field, and what is wrong with it in a configuration. -/
structure Rule where
  field : String
  fault : Config → Option String

/-- The settings of the paste service and of the metrics count only where these are enabled. -/
def rules : List Rule := [
  ⟨"listener.bind_address", fun config => addressFault config.listener.bindAddress⟩,
  ⟨"store.database_path", fun config => pathFault config.store.path⟩,
  ⟨"paste.endpoint", fun config =>
    if config.paste.enabled then endpointFault config.paste.endpoint else none⟩,
  ⟨"paste.timeout_secs", fun config =>
    if config.paste.enabled then zeroFault config.paste.timeout else none⟩,
  ⟨"timeouts.request_secs", fun config => zeroFault config.timeouts.request⟩,
  ⟨"security.max_body_size", fun config => zeroFault config.security.maxBodySize⟩,
  ⟨"observability.metrics_address", fun config =>
    if config.observability.metricsEnabled then addressFault config.observability.metricsAddress
    else none⟩]

def Rule.violation? (rule : Rule) (config : Config) : Option Violation :=
  (rule.fault config).map fun message => ⟨rule.field, message⟩

def violations (config : Config) : List Violation := rules.filterMap (·.violation? config)

end Config

end NoteBoard
