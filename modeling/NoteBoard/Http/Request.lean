import NoteBoard.Text.Percent

/-! Requests to the board. -/

namespace NoteBoard

/-- How the body of a request ends. -/
inductive Ending where
  | complete
  /-- It breaks off, or its coding is wrong. -/
  | broken (reason : String)
  /-- The time for the request is over before its end has come. -/
  | late
  deriving DecidableEq, Repr

structure Request where
  method : String
  path : String
  query : Option String
  headers : List (String × List UInt8)
  /-- The length of the body, if the request states it. -/
  declaredLength : Option Nat
  /-- What has come of the body by its end. -/
  body : List UInt8
  ending : Ending
  deriving DecidableEq, Repr

namespace Request

/-- One level of percent coding undone. A path that then is no text stays as it was sent. -/
def decodePath (path : String) : String :=
  match Utf8.decode? (Percent.decode (Utf8.encode path.toList)) with
  | some decoded => String.ofList decoded
  | none => path

/-- The first value of a header; the case of its name does not count. -/
def header? (request : Request) (name : String) : Option (List UInt8) :=
  (request.headers.find? fun header => header.1.toLower = name).map Prod.snd

def idHeader : String := "x-request-id"

/-- Visible ASCII characters, spaces and tabs. -/
def isPlain (value : UInt8) : Bool := value == 0x09 || (0x20 ≤ value && value < 0x7F)

def logId (request : Request) : String :=
  match request.header? idHeader with
  | some value =>
    if value.all isPlain then String.ofList (value.map fun b => Char.ofNat b.toNat) else "unknown"
  | none => "unknown"

end Request

end NoteBoard
