import NoteBoard.Metrics
import NoteBoard.Note.Store
import NoteBoard.Throttle
import NoteBoard.Token.Issuer

/-! The state of a running board. Everything a request can change is in it. -/

namespace NoteBoard

structure Board where
  throttle : Throttle
  notes : Store
  issuer : Issuer
  /-- The calls of the exporter so far, title and text, the first one first. -/
  exports : List (String × String)
  metrics : Metrics

namespace Board

def new (interval : Nat) (draws : Nat → UInt64) : Board :=
  ⟨⟨interval, none⟩, .empty, .new draws, [], {}⟩

def issue (board : Board) : Token × Board :=
  let (token, issuer) := board.issuer.issue
  (token, { board with issuer, metrics := board.metrics.recordTokenIssued issuer.size })

end Board

end NoteBoard
