import NoteBoard.Board.Basic
import NoteBoard.Refusal

/-! The gate before every request: first the throttle, then the route of the path, and for a
mutating route the form token. An accepted request takes the throttle's slot also if it is then
turned away. -/

namespace NoteBoard.Board

/-- Takes the throttle's slot at a time of the monotonic clock. -/
def acquire (board : Board) (clock : Nat) : Bool × Board :=
  let (accepted, throttle) := board.throttle.acquire clock
  if accepted then (true, { board with throttle })
  else (false, { board with throttle, metrics := board.metrics.recordThrottled })

def enter (table : RouteTable) (board : Board) (clock : Nat) (path : String) :
    Except Refusal Route × Board :=
  let (accepted, board) := board.acquire clock
  if accepted then
    match table.find path with
    | .ok route => (.ok route, board)
    | .error error => (.error (.ofRouteError error), board)
  else (.error .tooManyRequests, board)

def holds (board : Board) (candidate : Option Token) : Bool :=
  match candidate with
  | some token => board.issuer.validate token
  | none => false

/-- The token check; routes that do not mutate pass untouched. -/
def authorize (board : Board) (route : Route) (candidate : Option Token) :
    Except Refusal Unit × Board :=
  if !route.mutates || board.holds candidate then (.ok (), board)
  else (.error .unauthorized, { board with metrics := board.metrics.recordTokenRejected })

def check (table : RouteTable) (board : Board) (clock : Nat) (path : String)
    (candidate : Option Token) : Except Refusal Route × Board :=
  match board.enter table clock path with
  | (.error refusal, board) => (.error refusal, board)
  | (.ok route, board) =>
    match board.authorize route candidate with
    | (.error refusal, board) => (.error refusal, board)
    | (.ok (), board) => (.ok route, board)

end NoteBoard.Board
