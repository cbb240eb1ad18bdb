import NoteBoard.Http.Response
import NoteBoard.Note.Store
import NoteBoard.Paste
import NoteBoard.Route.Table

/-! Why a request was not carried out. A rejected token is reported in one way only, so that the
answer cannot be used to find out ids or secrets. -/

namespace NoteBoard

inductive Refusal where
  | tooManyRequests
  | notFound (path : String)
  | badRequest (reason : String)
  | payloadTooLarge
  | unauthorized
  /-- A fault reported by the store or the exporter. -/
  | failed (fault : String)
  deriving DecidableEq, Repr

namespace Refusal

def status : Refusal → Nat
  | .tooManyRequests => 429
  | .notFound _ => 404
  | .badRequest _ => 400
  | .payloadTooLarge => 413
  | .unauthorized => 403
  | .failed _ => 500

def message : Refusal → String
  | .tooManyRequests => "Slow down"
  | .notFound path => "Not found: " ++ path
  | .badRequest reason => "Bad request: " ++ reason
  | .payloadTooLarge => "Request body too large"
  | .unauthorized => "Invalid form token"
  | .failed fault => fault

def response (refusal : Refusal) : Response := .plain refusal.status refusal.message

def ofRouteError : RouteError → Refusal
  | .notFound path => .notFound path
  | .invalidId digits => .badRequest (RouteError.invalidId digits).message

def ofStoreError (error : StoreError) : Refusal := .failed error.message

def ofExportError (error : ExportError) : Refusal := .failed error.message

end Refusal

end NoteBoard
