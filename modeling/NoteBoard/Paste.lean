import NoteBoard.Form
import NoteBoard.Text.Blank
import NoteBoard.Text.Quoted
import NoteBoard.Url.Parser

/-! The paste service. A note goes out as a form with two fields; the reply, trimmed, is the URL of
the copy. -/

namespace NoteBoard

inductive ExportError where
  | disabled
  | invalidEndpoint (cause : UrlError)
  /-- The service was not reached, or broke off its reply. -/
  | unreachable (detail : String)
  | status (code : Nat)
  | invalidReference (reference : String)
  deriving DecidableEq, Repr

def ExportError.message : ExportError → String
  | .disabled => "Paste export is disabled"
  | .invalidEndpoint cause => "Invalid paste endpoint: " ++ cause.message
  | .unreachable detail => "Paste request failed: " ++ detail
  | .status code => "Paste service returned status " ++ toString code
  | .invalidReference reference =>
    "Paste service returned an unusable reference: " ++ Quoted.render reference

abbrev Exporter := String → String → Except ExportError String

namespace Paste

/-- A reference is a URL of the web; white space around it does not belong to it. -/
def parseReference (raw : String) : Except ExportError String :=
  let reference := Text.trim raw
  match Url.parse reference with
  | .ok url => if url.isHttp then .ok reference else .error (.invalidReference reference)
  | .error _ => .error (.invalidReference reference)

structure Request where
  method : String
  target : Url
  contentType : String
  body : List UInt8
  deriving DecidableEq, Repr

/-- What a client hands over of a reply. The body comes as text, decoded as the reply asks for, or
not at all if the reply breaks off in it. -/
structure Reply where
  status : Nat
  text : Except String String
  deriving Repr

def Reply.isSuccess (reply : Reply) : Bool := 200 ≤ reply.status && reply.status ≤ 299

structure Service where
  endpoint : Url
  deriving DecidableEq, Repr

def Service.open? (endpoint : String) : Except ExportError Service :=
  match Url.parse endpoint with
  | .ok url => .ok ⟨url⟩
  | .error cause => .error (.invalidEndpoint cause)

def Service.request (service : Service) (title body : String) : Request where
  method := "POST"
  target := { service.endpoint with fragment := none }
  contentType := "application/x-www-form-urlencoded"
  body := Form.encodePairs [("content", body), ("title", title)]

/-- The body counts only if the status reports success. -/
def readReply (reply : Reply) : Except ExportError String :=
  if reply.isSuccess then
    match reply.text with
    | .ok text => parseReference text
    | .error detail => .error (.unreachable detail)
  else .error (.status reply.status)

/-- Publishes through a client that answers a request with a reply or not at all. -/
def Service.exporter (service : Service) (send : Request → Except String Reply) : Exporter :=
  fun title body =>
    match send (service.request title body) with
    | .ok reply => readReply reply
    | .error detail => .error (.unreachable detail)

end Paste

end NoteBoard
