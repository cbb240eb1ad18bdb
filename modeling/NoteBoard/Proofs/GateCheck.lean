import Mathlib.Data.List.Induction
import NoteBoard.Proofs.PerformEffects
import NoteBoard.Proofs.RequestOutcome

/-! The way of a request against the gate's check. The server takes the steps of the check apart,
since the token is known only when the body has been read; the rulings are the same, and with them
the slot of the throttle and what is counted. -/

namespace NoteBoard.Proofs.GateCheck
open PerformEffects RequestOutcome

/-- The throttle decides before the path, the path before what comes of the body, and this before the
token that it brings. There is no ruling on a token that does not come in time. -/
def verdict (table : RouteTable) (board : Board) (clock : Nat) (path : String)
    (body : Option (Except Refusal (Option Token))) : Option (Except Refusal Route) :=
  if board.throttle.accepts clock then
    match table.find path, body with
    | .error error, _ => some (.error (.ofRouteError error))
    | .ok _, none => none
    | .ok _, some (.error refusal) => some (.error refusal)
    | .ok route, some (.ok candidate) =>
      if route.mutates = true ∧ board.holds candidate = false then some (.error .unauthorized)
      else some (.ok route)
  else some (.error .tooManyRequests)

def counted (metrics : Metrics) : Option (Except Refusal Route) → Metrics
  | some (.error .tooManyRequests) => metrics.recordThrottled
  | some (.error .unauthorized) => metrics.recordTokenRejected
  | _ => metrics

theorem counted_keeps (metrics : Metrics) (ruling : Option (Except Refusal Route)) :
    (counted metrics ruling).requests = metrics.requests ∧
      (counted metrics ruling).durations = metrics.durations ∧
      (counted metrics ruling).tokensIssued = metrics.tokensIssued ∧
      (counted metrics ruling).tokensOutstanding = metrics.tokensOutstanding := by
  unfold counted
  split <;> exact ⟨rfl, rfl, rfl, rfl⟩

def passed (board : Board) (clock : Nat) (ruling : Option (Except Refusal Route)) : Board :=
  { board with
    throttle := (board.throttle.acquire clock).2
    metrics := counted board.metrics ruling }

private theorem passed_untouched (board : Board) (clock : Nat)
    (ruling : Option (Except Refusal Route)) :
    Untouched board (passed board clock ruling) := ⟨rfl, rfl, rfl⟩

theorem acquire_of_early {throttle : Throttle} {clock : Nat}
    (early : throttle.accepts clock = false) : throttle.acquire clock = (false, throttle) := by
  unfold Throttle.acquire
  rw [early]
  rfl

theorem passed_of_early {board : Board} {clock : Nat}
    (early : board.throttle.accepts clock = false) :
    passed board clock (some (.error .tooManyRequests)) =
      { board with metrics := board.metrics.recordThrottled } := by
  unfold passed
  rw [acquire_of_early early]
  rfl

theorem passed_of_lost (board : Board) (clock : Nat) (error : RouteError) :
    passed board clock (some (.error (.ofRouteError error))) =
      { board with throttle := (board.throttle.acquire clock).2 } := by
  cases error <;> rfl

theorem authorize_eq (board : Board) (throttle : Throttle) (route : Route)
    (candidate : Option Token) :
    Board.authorize { board with throttle } route candidate =
      if route.mutates = true ∧ board.holds candidate = false then
        (.error .unauthorized,
          { board with throttle, metrics := board.metrics.recordTokenRejected })
      else (.ok (), { board with throttle }) := by
  have same : Board.holds { board with throttle } candidate = board.holds candidate := rfl
  unfold Board.authorize
  rw [same]
  cases route.mutates <;> cases board.holds candidate <;> rfl

theorem check_eq (table : RouteTable) (board : Board) (clock : Nat) (path : String)
    (candidate : Option Token) :
    let checked := board.check table clock path candidate
    some checked.1 = verdict table board clock path (some (.ok candidate)) ∧
      checked.2 = passed board clock (some checked.1) := by
  unfold Board.check verdict
  rw [enter_eq]
  cases ready : board.throttle.accepts clock with
  | false => exact ⟨rfl, (passed_of_early ready).symm⟩
  | true =>
    simp only [if_true]
    cases table.find path with
    | error error => exact ⟨rfl, (passed_of_lost ..).symm⟩
    | ok route =>
      simp only [authorize_eq]
      by_cases barred : route.mutates = true ∧ board.holds candidate = false
      · rw [if_pos barred, if_pos barred]
        exact ⟨rfl, rfl⟩
      · rw [if_neg barred, if_neg barred]
        exact ⟨rfl, rfl⟩

def label (server : Server) (arrival : Arrival) (board : Board) (request : Request) : String :=
  if board.throttle.accepts arrival.clock then
    match server.table.find (Request.decodePath request.path) with
    | .error _ => "unmatched"
    | .ok route => route.name
  else "unmatched"

/-- What the server rules of a request whose declared length is within the limit. -/
def ruling (server : Server) (arrival : Arrival) (board : Board) (request : Request) :
    Option (Except Refusal Route) :=
  verdict server.table board arrival.clock (Request.decodePath request.path)
    ((server.readForm? request).map fun read => read.map Form.token?)

def followed (server : Server) (arrival : Arrival) (request : Request) (label : String)
    (ruling : Option (Except Refusal Route)) (board : Board) : Option Response × Board :=
  match ruling with
  | none => (none, board)
  | some (.error refusal) => Server.finish label (some (.error refusal)) board
  | some (.ok route) =>
    let dispatched := server.dispatch arrival board route (Form.parse request.query request.body)
    Server.finish label dispatched.1 dispatched.2

theorem form_of_readForm? {server : Server} {request : Request} {form : Form}
    (read : server.readForm? request = some (.ok form)) :
    form = Form.parse request.query request.body ∧ request.body.length ≤ server.maxBodySize ∧
      request.ending = .complete := by
  have reads := readForm?_reads server request
  rw [read] at reads
  cases reads with
  | whole within complete => exact ⟨rfl, within, complete⟩

private theorem passed_of_unread {server : Server} {request : Request} {refusal : Refusal}
    (unread : server.readForm? request = some (.error refusal)) (board : Board) (clock : Nat) :
    passed board clock (some (.error refusal)) =
      { board with throttle := (board.throttle.acquire clock).2 } := by
  have reads := readForm?_reads server request
  rw [unread] at reads
  cases reads <;> rfl

/-- A request is ruled on once, and all that the gate changes follows from the ruling. -/
theorem answer_eq (server : Server) (arrival : Arrival) (board : Board) (request : Request) :
    server.answer arrival board request =
      followed server arrival request (label server arrival board request)
        (ruling server arrival board request)
        (passed board arrival.clock (ruling server arrival board request)) := by
  unfold Server.answer ruling verdict label
  rw [enter_eq]
  cases ready : board.throttle.accepts arrival.clock with
  | false =>
    simp only [Bool.false_eq_true, if_false]
    rw [passed_of_early ready]
    rfl
  | true =>
    simp only [if_true]
    cases server.table.find (Request.decodePath request.path) with
    | error error =>
      dsimp only
      rw [passed_of_lost]
      rfl
    | ok route =>
      unfold Server.carryOut
      rcases read : server.readForm? request with _ | refusal | form
      · rfl
      · simp only [Option.map_some, Except.map]
        rw [passed_of_unread read]
        rfl
      · obtain ⟨rfl, _⟩ := form_of_readForm? read
        simp only [Option.map_some, Except.map, authorize_eq]
        by_cases barred : route.mutates = true ∧
            board.holds (Form.parse request.query request.body).token? = false
        · simp only [if_pos barred]
          rfl
        · simp only [if_neg barred]
          rfl

structure Recorded (label : String) (answer : Option Response) (before after : Metrics) : Prop where
  requests : after.requests = answer.elim before.requests fun response =>
    before.requests.bump (label, response.status)
  durations : after.durations = answer.elim before.durations fun _ => before.durations.bump label
  throttled : after.throttled = before.throttled
  tokenRejections : after.tokenRejections = before.tokenRejections

theorem Recorded.tokensIssued {label : String} {answer : Option Response} {outstanding : Nat}
    {before after : Metrics}
    (recorded : Recorded label answer (before.recordTokenIssued outstanding) after) :
    Recorded label answer before after :=
  ⟨recorded.requests, recorded.durations, recorded.throttled, recorded.tokenRejections⟩

theorem finish_recorded (label : String) (result : Option (Except Refusal Response))
    (board : Board) :
    let finished := Server.finish label result board
    Recorded label finished.1 board.metrics finished.2.metrics := by
  cases result <;> exact ⟨rfl, rfl, rfl, rfl⟩

theorem followed_recorded (server : Server) (arrival : Arrival) (request : Request)
    (label : String) (ruling : Option (Except Refusal Route)) (board : Board) :
    let done := followed server arrival request label ruling board
    Recorded label done.1 board.metrics done.2.metrics := by
  rcases ruling with _ | refusal | route
  · exact ⟨rfl, rfl, rfl, rfl⟩
  · exact finish_recorded label (some (.error refusal)) board
  · let form := Form.parse request.query request.body
    have recorded := finish_recorded label (server.dispatch arrival board route form).1
      (Board.perform server.exporter board arrival.now route form).2
    rcases perform_metrics server.exporter board arrival.now route form with
      ⟨_, same⟩ | ⟨_, issued⟩
    · rwa [same] at recorded
    · rw [issued] at recorded
      exact recorded.tokensIssued

private theorem followed_throttle (server : Server) (arrival : Arrival) (request : Request)
    (label : String) (ruling : Option (Except Refusal Route)) (board : Board) :
    (followed server arrival request label ruling board).2.throttle = board.throttle := by
  have kept (result : Option (Except Refusal Response)) (board : Board) :
      (Server.finish label result board).2.throttle = board.throttle := by
    cases result <;> rfl
  rcases ruling with _ | refusal | route
  · rfl
  · exact kept ..
  · exact (kept ..).trans (perform_throttle ..)

structure Follows (server : Server) (arrival : Arrival) (board : Board) (request : Request)
    (checked : Except Refusal Route × Board) (served : Reply × Board) : Prop where
  order : some checked.1 = verdict server.table board arrival.clock
    (Request.decodePath request.path) (some (.ok (Form.parse request.query request.body).token?))
  untouched : Untouched board checked.2
  refused : ∀ refusal, checked.1 = .error refusal →
    served.1.response =
        ⟨refusal.status, some "text/plain; charset=utf-8", none, refusal.message⟩ ∧
      Untouched board served.2
  dispatched : ∀ route, checked.1 = .ok route →
    let performed := Board.perform server.exporter checked.2 arrival.now route
      (Form.parse request.query request.body)
    Answers arrival checked.2 performed served.1.response ∧ Untouched performed.2 served.2
  throttle : served.2.throttle = checked.2.throttle
  throttled : served.2.metrics.throttled = checked.2.metrics.throttled
  tokenRejections : served.2.metrics.tokenRejections = checked.2.metrics.tokenRejections

/-- At every board and moment, a request that comes whole and within the limits of length is answered
as the gate's check rules on its decoded path and its token: with the status and the text of the
refusal, or with what comes of the route that the check lets through, carried out with the form of
the request. Only an exporter that takes too long can keep a client from the latter. The slot and
the counts of refusals are those after the check. -/
theorem serve_follows_check (server : Server) (arrival : Arrival) (board : Board)
    (request : Request) (complete : request.ending = .complete)
    (within : request.body.length ≤ server.maxBodySize)
    (declared : ∀ length, request.declaredLength = some length → length ≤ server.maxBodySize) :
    Follows server arrival board request
      (board.check server.table arrival.clock (Request.decodePath request.path)
        (Form.parse request.query request.body).token?)
      (server.serve arrival board request) := by
  have unlimited := (declaresTooMuch_eq_false_iff server request).mpr declared
  obtain ⟨answered, after⟩ := serve_response unlimited arrival board
  obtain ⟨ruled, behind⟩ := check_eq server.table board arrival.clock
    (Request.decodePath request.path) (Form.parse request.query request.body).token?
  generalize board.check server.table arrival.clock (Request.decodePath request.path)
    (Form.parse request.query request.body).token? = checked at ruled behind ⊢
  have same : ruling server arrival board request = some checked.1 := by
    unfold ruling
    rw [readForm?_of_whole within complete]
    exact ruled.symm
  have recorded := followed_recorded server arrival request (label server arrival board request)
    (some checked.1) checked.2
  rw [answer_eq, same, ← behind] at answered after
  have untouched : Untouched board checked.2 := behind ▸ passed_untouched ..
  refine ⟨ruled, untouched, ?_, ?_, ?_, ?_, ?_⟩
  · intro refusal refused
    rw [answered, after, refused]
    exact ⟨rfl, untouched.trans (finish_untouched ..)⟩
  · intro route admitted
    rw [answered, after, admitted]
    dsimp only [followed]
    rw [finish_answer]
    exact ⟨dispatch_answers .., finish_untouched ..⟩
  · rw [after, followed_throttle]
  · rw [after]
    exact recorded.throttled
  · rw [after]
    exact recorded.tokenRejections

def tokenless : Request :=
  ⟨"POST", "/New%4Eote/", none, [], some 10, Utf8.encode "title=mine".toList, .complete⟩

theorem tokenless_follows_check :
    let server := Server.ofConfig {} none
    let board := Server.newBoard {} fun _ => 0
    let served := server.serve ⟨7, 3, [], false⟩ board tokenless
    tokenless.ending = .complete ∧ tokenless.body.length ≤ server.maxBodySize ∧
      (∀ length, tokenless.declaredLength = some length → length ≤ server.maxBodySize) ∧
      served.1.response = ⟨403, some "text/plain; charset=utf-8", none, "Invalid form token"⟩ ∧
      served.2.metrics.tokenRejections = 1 ∧ served.2.throttle.accepted = some 3 := by
  intro server board served
  have within : tokenless.body.length ≤ server.maxBodySize := by decide +kernel
  have declared : ∀ length, tokenless.declaredLength = some length →
      length ≤ server.maxBodySize := by
    intro length stated
    cases stated
    decide
  have follows := serve_follows_check server ⟨7, 3, [], false⟩ board tokenless rfl within declared
  have barred : (board.check server.table 3 (Request.decodePath tokenless.path)
      (Form.parse tokenless.query tokenless.body).token?).1 = .error .unauthorized := by
    decide +kernel
  refine ⟨rfl, within, declared, (follows.refused _ barred).1, ?_, ?_⟩
  · rw [follows.tokenRejections]
    decide +kernel
  · rw [follows.throttle]
    decide +kernel

end NoteBoard.Proofs.GateCheck
