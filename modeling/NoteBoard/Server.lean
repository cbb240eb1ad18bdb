import NoteBoard.Board.Action
import NoteBoard.Board.Gate
import NoteBoard.Config.Basic
import NoteBoard.Http.Request

/-! The whole way of a request. A declared length above the limit is answered at once, before the
gate and without the headers for browsers. All other requests pass the gate, and what is counted
and answered then depends on the route. A request waits for the rest of its body and for the
exporter. If its time runs out there, it is given up as it stands: what it has done stays done, the
answer goes without the headers for browsers, and nothing is counted. -/

namespace NoteBoard

structure Server where
  table : RouteTable
  maxBodySize : Nat
  /-- Whether responses carry the headers for browsers. -/
  hardened : Bool
  exporter : Option Exporter

/-- What a request finds outside the board. -/
structure Arrival where
  now : Int
  /-- The monotonic clock in nanoseconds. -/
  clock : Nat
  /-- The id for a request that brings none. -/
  freshId : List UInt8
  /-- Whether the time for the request is over before the exporter, if it is called, answers. -/
  exportLate : Bool
  deriving DecidableEq, Repr

structure Reply where
  response : Response
  contentTypeOptions : Option String
  frameOptions : Option String
  requestId : List UInt8
  deriving DecidableEq, Repr

/-- What is sent of a reply. HEAD asks for all of an answer but its body. -/
def Reply.sent (reply : Reply) (request : Request) : Reply :=
  if request.method = "HEAD" then { reply with response := { reply.response with body := "" } }
  else reply

namespace Server

def ofConfig (config : Config) (exporter : Option Exporter) : Server :=
  ⟨RouteTable.board, config.security.maxBodySize, config.security.headers, exporter⟩

/-- The board of a server that starts with no notes. -/
def newBoard (config : Config) (draws : Nat → UInt64) : Board :=
  Board.new config.throttle.minInterval draws

/-- The form that a request brings. It is not known if the time runs out before the body ends. -/
def readForm? (server : Server) (request : Request) : Option (Except Refusal Form) :=
  if server.maxBodySize < request.body.length then some (.error .payloadTooLarge)
  else match request.ending with
    | .complete => some (.ok (Form.parse request.query request.body))
    | .broken reason => some (.error (.badRequest ("Unreadable request body: " ++ reason)))
    | .late => none

/-- Carries out a route. The exporter is all that is waited for. -/
def dispatch (server : Server) (arrival : Arrival) (board : Board) (route : Route) (form : Form) :
    Option (Except Refusal Response) × Board :=
  let (result, after) := Board.perform server.exporter board arrival.now route form
  let called := board.exports.length < after.exports.length
  (if arrival.exportLate && called then none else some result, after)

/-- What comes of a request behind the gate: nothing if it is given up. -/
def carryOut (server : Server) (arrival : Arrival) (board : Board) (route : Route)
    (request : Request) : Option (Except Refusal Response) × Board :=
  match server.readForm? request with
  | none => (none, board)
  | some (.error refusal) => (some (.error refusal), board)
  | some (.ok form) =>
    match board.authorize route form.token? with
    | (.error refusal, board) => (some (.error refusal), board)
    | (.ok (), board) => server.dispatch arrival board route form

/-- The route label of requests that the gate turns away. -/
def unmatched : String := "unmatched"

/-- The answer, counted under its label. Where there is no result, there is nothing to count. -/
def finish (label : String) (result : Option (Except Refusal Response)) (board : Board) :
    Option Response × Board :=
  match result with
  | none => (none, board)
  | some result =>
    let response := match result with
      | .ok response => response
      | .error refusal => refusal.response
    (some response,
      { board with metrics := board.metrics.recordRequest label response.status })

/-- The answer to a request whose declared length is within the limit, if its time suffices. -/
def answer (server : Server) (arrival : Arrival) (board : Board) (request : Request) :
    Option Response × Board :=
  match board.enter server.table arrival.clock (Request.decodePath request.path) with
  | (.error refusal, board) => finish unmatched (some (.error refusal)) board
  | (.ok route, board) =>
    let (result, board) := server.carryOut arrival board route request
    finish route.name result board

def declaresTooMuch (server : Server) (request : Request) : Bool :=
  match request.declaredLength with
  | some length => server.maxBodySize < length
  | none => false

def lengthExceeded : Response := .plain 413 "length limit exceeded"

def timedOut : Response := ⟨408, none, none, ""⟩

/-- Answers a request. The client's own request id is kept. -/
def serve (server : Server) (arrival : Arrival) (board : Board) (request : Request) :
    Reply × Board :=
  let requestId := (request.header? Request.idHeader).getD arrival.freshId
  if server.declaresTooMuch request then (⟨lengthExceeded, none, none, requestId⟩, board)
  else match server.answer arrival board request with
    | (none, board) => (⟨timedOut, none, none, requestId⟩, board)
    | (some response, board) =>
      let guard (value : String) : Option String := if server.hardened then some value else none
      (⟨response, guard "nosniff", guard "DENY", requestId⟩, board)

/-- A request, or a token given out by the server's owner. -/
inductive Event where
  | request (arrival : Arrival) (request : Request)
  | issue
  deriving DecidableEq, Repr

def step (server : Server) (board : Board) : Event → Board
  | .request arrival request => (server.serve arrival board request).2
  | .issue => board.issue.2

def run (server : Server) (board : Board) (events : List Event) : Board :=
  events.foldl server.step board

end Server

end NoteBoard
