import NoteBoard.Server

/-! What can come of one request. The gate touches neither the notes nor the issuer nor the calls
of the exporter, so all that a request does to them is done by carrying out its route. -/

namespace NoteBoard.Proofs.RequestOutcome

/-- The notes, the issuer and the calls of the exporter are as they were. -/
structure Untouched (before after : Board) : Prop where
  notes : after.notes = before.notes
  issuer : after.issuer = before.issuer
  exports : after.exports = before.exports

theorem Untouched.refl (board : Board) : Untouched board board := ⟨rfl, rfl, rfl⟩

theorem Untouched.trans {first middle last : Board} (left : Untouched first middle)
    (right : Untouched middle last) : Untouched first last :=
  ⟨right.notes.trans left.notes, right.issuer.trans left.issuer, right.exports.trans left.exports⟩

theorem Untouched.holds {before after : Board} (untouched : Untouched before after)
    (candidate : Option Token) : after.holds candidate = before.holds candidate := by
  unfold Board.holds
  rw [untouched.issuer]

def responseOf : Except Refusal Response → Response
  | .ok response => response
  | .error refusal => refusal.response

/-- All that the gate does before the token check: the throttle decides first, and only what it
accepts takes its slot. -/
theorem enter_eq (table : RouteTable) (board : Board) (clock : Nat) (path : String) :
    board.enter table clock path =
      if board.throttle.accepts clock then
        (match table.find path with
          | .ok route => .ok route
          | .error error => .error (.ofRouteError error),
          { board with throttle := (board.throttle.acquire clock).2 })
      else (.error .tooManyRequests, { board with metrics := board.metrics.recordThrottled }) := by
  unfold Board.enter Board.acquire Throttle.acquire
  cases board.throttle.accepts clock with
  | false => rfl
  | true => cases table.find path <;> rfl

private theorem enter_untouched (table : RouteTable) (board : Board) (clock : Nat) (path : String) :
    Untouched board (board.enter table clock path).2 := by
  rw [enter_eq]
  split <;> exact ⟨rfl, rfl, rfl⟩

private theorem enter_ok {table : RouteTable} {board : Board} {clock : Nat} {path : String}
    {route : Route} (entered : (board.enter table clock path).1 = .ok route) :
    board.throttle.accepts clock = true ∧ table.find path = .ok route := by
  rw [enter_eq] at entered
  split at entered
  next accepted =>
    refine ⟨accepted, ?_⟩
    cases found : table.find path with
    | ok other =>
      rw [found] at entered
      cases entered
      rfl
    | error error =>
      rw [found] at entered
      cases entered
  next => cases entered

theorem enter_found {table : RouteTable} {path : String} {route : Route}
    (found : table.find path = .ok route) (board : Board) (clock : Nat) :
    board.enter table clock path =
      if board.throttle.accepts clock then
        (.ok route, { board with throttle := (board.throttle.acquire clock).2 })
      else (.error .tooManyRequests, { board with metrics := board.metrics.recordThrottled }) := by
  rw [enter_eq, found]

private theorem enter_error {table : RouteTable} {board : Board} {clock : Nat} {path : String}
    {refusal : Refusal} (entered : (board.enter table clock path).1 = .error refusal) :
    board.throttle.accepts clock = false ∧ refusal = .tooManyRequests ∨
      ∃ error, table.find path = .error error ∧ refusal = .ofRouteError error := by
  rw [enter_eq] at entered
  split at entered
  next =>
    right
    cases found : table.find path with
    | ok route =>
      rw [found] at entered
      cases entered
    | error error =>
      rw [found] at entered
      cases entered
      exact ⟨error, rfl, rfl⟩
  next early =>
    cases entered
    exact Or.inl ⟨Bool.not_eq_true _ ▸ early, rfl⟩

private theorem authorize_untouched (board : Board) (route : Route) (candidate : Option Token) :
    Untouched board (board.authorize route candidate).2 := by
  unfold Board.authorize
  split <;> exact ⟨rfl, rfl, rfl⟩

private theorem authorize_ok {board : Board} {route : Route} {candidate : Option Token}
    (authorized : (board.authorize route candidate).1 = .ok ()) :
    route.mutates = true → board.holds candidate = true := by
  unfold Board.authorize at authorized
  split at authorized
  next allowed =>
    intro mutates
    simpa [mutates] using allowed
  next => cases authorized

private theorem authorize_error {board : Board} {route : Route} {candidate : Option Token}
    {refusal : Refusal} (rejected : (board.authorize route candidate).1 = .error refusal) :
    route.mutates = true ∧ board.holds candidate = false ∧ refusal = .unauthorized := by
  unfold Board.authorize at rejected
  split at rejected
  next => cases rejected
  next barred =>
    cases rejected
    simpa using barred

/-- Why a request is turned away, and what it is told. -/
inductive Refuses (server : Server) (arrival : Arrival) (board : Board) (request : Request) :
    Refusal → Prop where
  | throttled (early : board.throttle.accepts arrival.clock = false) :
      Refuses server arrival board request .tooManyRequests
  | lost {error : RouteError}
      (lost : server.table.find (Request.decodePath request.path) = .error error) :
      Refuses server arrival board request (.ofRouteError error)
  | tooLarge (long : server.maxBodySize < request.body.length) :
      Refuses server arrival board request .payloadTooLarge
  | unreadable {reason : String} (broken : request.ending = .broken reason) :
      Refuses server arrival board request (.badRequest ("Unreadable request body: " ++ reason))
  | unauthorized {route : Route}
      (found : server.table.find (Request.decodePath request.path) = .ok route)
      (mutates : route.mutates = true)
      (invalid : board.holds (Form.parse request.query request.body).token? = false) :
      Refuses server arrival board request .unauthorized

/-- What a client is told of a route that is carried out: its result, or that the time ran out while
the exporter was waited for. -/
def Answers (arrival : Arrival) (before : Board) (performed : Except Refusal Response × Board)
    (response : Response) : Prop :=
  response = responseOf performed.1 ∨
    response = Server.timedOut ∧ arrival.exportLate = true ∧ performed.2.exports ≠ before.exports

theorem Answers.of_silent {arrival : Arrival} {before : Board}
    {performed : Except Refusal Response × Board} {response : Response}
    (answered : Answers arrival before performed response)
    (silent : performed.2.exports = before.exports) : response = responseOf performed.1 := by
  rcases answered with answered | ⟨_, _, called⟩
  · exact answered
  · exact absurd silent called

theorem Answers.of_prompt {arrival : Arrival} {before : Board}
    {performed : Except Refusal Response × Board} {response : Response}
    (answered : Answers arrival before performed response) (prompt : arrival.exportLate = false) :
    response = responseOf performed.1 := by
  rcases answered with answered | ⟨_, late, _⟩
  · exact answered
  · cases prompt.symm.trans late

/-- What can come of a request: it is turned away or given up and touches nothing, or it has passed
the throttle, the router and, if its route mutates, the token check, and its route is carried out. -/
inductive Outcome (server : Server) (arrival : Arrival) (board : Board) (request : Request) :
    Response → Board → Prop where
  | tooLong : Outcome server arrival board request Server.lengthExceeded board
  | refused {refusal : Refusal} {after : Board} (reason : Refuses server arrival board request refusal)
      (untouched : Untouched board after) :
      Outcome server arrival board request refusal.response after
  | givenUp {after : Board} (late : request.ending = .late) (untouched : Untouched board after) :
      Outcome server arrival board request Server.timedOut after
  | performed {route : Route} {response : Response} {admitted after : Board}
      (accepted : board.throttle.accepts arrival.clock = true)
      (found : server.table.find (Request.decodePath request.path) = .ok route)
      (authorized : route.mutates = true →
        board.holds (Form.parse request.query request.body).token? = true)
      (untouched : Untouched board admitted)
      (answered : Answers arrival admitted (Board.perform server.exporter admitted arrival.now route
        (Form.parse request.query request.body)) response)
      (finished : Untouched (Board.perform server.exporter admitted arrival.now route
        (Form.parse request.query request.body)).2 after) :
      Outcome server arrival board request response after

theorem finish_answer (label : String) (result : Option (Except Refusal Response)) (board : Board) :
    (Server.finish label result board).1 = result.map responseOf := by
  rcases result with _ | _ | _ <;> rfl

theorem finish_untouched (label : String) (result : Option (Except Refusal Response))
    (board : Board) : Untouched board (Server.finish label result board).2 := by
  cases result <;> exact ⟨rfl, rfl, rfl⟩

def told (result : Option Response) : Response := result.getD Server.timedOut

theorem dispatch_cases (server : Server) (arrival : Arrival) (board : Board) (route : Route)
    (form : Form) :
    let performed := Board.perform server.exporter board arrival.now route form
    let result := (server.dispatch arrival board route form).1
    result = some performed.1 ∨
      result = none ∧ arrival.exportLate = true ∧ performed.2.exports ≠ board.exports := by
  unfold Server.dispatch
  dsimp only
  split
  next cut =>
    obtain ⟨late, called⟩ := Bool.and_eq_true_iff.mp cut
    refine Or.inr ⟨rfl, late, ?_⟩
    intro same
    rw [same] at called
    exact Nat.lt_irrefl _ (of_decide_eq_true called)
  next => exact Or.inl rfl

theorem dispatch_answers (server : Server) (arrival : Arrival) (board : Board) (route : Route)
    (form : Form) :
    Answers arrival board (Board.perform server.exporter board arrival.now route form)
      (told ((server.dispatch arrival board route form).1.map responseOf)) := by
  rcases dispatch_cases server arrival board route form with done | ⟨cut, late, called⟩
  · rw [done]
    exact Or.inl rfl
  · rw [cut]
    exact Or.inr ⟨rfl, late, called⟩

/-- What reading the form of a request comes to. -/
inductive Reads (server : Server) (request : Request) : Option (Except Refusal Form) → Prop where
  | tooLarge (long : server.maxBodySize < request.body.length) :
      Reads server request (some (.error .payloadTooLarge))
  | unreadable {reason : String} (broken : request.ending = .broken reason) :
      Reads server request (some (.error (.badRequest ("Unreadable request body: " ++ reason))))
  | late (late : request.ending = .late) : Reads server request none
  | whole (within : request.body.length ≤ server.maxBodySize)
      (complete : request.ending = .complete) :
      Reads server request (some (.ok (Form.parse request.query request.body)))

theorem readForm?_reads (server : Server) (request : Request) :
    Reads server request (server.readForm? request) := by
  unfold Server.readForm?
  split
  next long => exact .tooLarge long
  next short =>
    cases ending : request.ending with
    | complete => exact .whole (Nat.le_of_not_lt short) ending
    | broken reason => exact .unreadable ending
    | late => exact .late ending

private theorem carryOut_outcome {server : Server} {arrival : Arrival} {board admitted : Board}
    {request : Request} {route : Route}
    (accepted : board.throttle.accepts arrival.clock = true)
    (found : server.table.find (Request.decodePath request.path) = .ok route)
    (untouched : Untouched board admitted) :
    let carried := server.carryOut arrival admitted route request
    ∀ after, Untouched carried.2 after →
      Outcome server arrival board request (told (carried.1.map responseOf)) after := by
  have checked := authorize_untouched admitted route (Form.parse request.query request.body).token?
  have reads := readForm?_reads server request
  unfold Server.carryOut
  generalize server.readForm? request = read at reads ⊢
  cases reads with
  | tooLarge long =>
    intro _ after last
    exact .refused (.tooLarge long) (untouched.trans last)
  | unreadable broken =>
    intro _ after last
    exact .refused (.unreadable broken) (untouched.trans last)
  | late late =>
    intro _ after last
    exact .givenUp late (untouched.trans last)
  | whole within complete =>
    dsimp only
    split
    next refusal barred equal =>
      intro after last
      obtain ⟨mutates, invalid, rfl⟩ := authorize_error (congrArg Prod.fst equal)
      rw [untouched.holds] at invalid
      rw [equal] at checked
      exact .refused (.unauthorized found mutates invalid) ((untouched.trans checked).trans last)
    next behind equal =>
      intro after last
      have allowed := authorize_ok (congrArg Prod.fst equal)
      rw [equal] at checked
      refine .performed accepted found ?_ (untouched.trans checked) (dispatch_answers ..) last
      intro mutates
      rw [← untouched.holds]
      exact allowed mutates

private theorem answer_outcome (server : Server) (arrival : Arrival) (board : Board)
    (request : Request) :
    Outcome server arrival board request (told (server.answer arrival board request).1)
      (server.answer arrival board request).2 := by
  have passed := enter_untouched server.table board arrival.clock (Request.decodePath request.path)
  unfold Server.answer
  split
  next refusal after equal =>
    rw [equal] at passed
    have untouched := passed.trans (finish_untouched Server.unmatched (some (.error refusal)) after)
    rcases enter_error (congrArg Prod.fst equal) with ⟨early, rfl⟩ | ⟨error, lost, rfl⟩
    · exact .refused (.throttled early) untouched
    · exact .refused (.lost lost) untouched
  next route after equal =>
    obtain ⟨accepted, found⟩ := enter_ok (congrArg Prod.fst equal)
    rw [equal] at passed
    dsimp only
    rw [finish_answer]
    exact carryOut_outcome accepted found passed _ (finish_untouched ..)

theorem serve_response {server : Server} {request : Request}
    (declared : server.declaresTooMuch request = false) (arrival : Arrival) (board : Board) :
    (server.serve arrival board request).1.response =
        told (server.answer arrival board request).1 ∧
      (server.serve arrival board request).2 = (server.answer arrival board request).2 := by
  unfold Server.serve
  rw [declared]
  rcases server.answer arrival board request with ⟨_ | response, after⟩ <;> exact ⟨rfl, rfl⟩

theorem serve_outcome (server : Server) (arrival : Arrival) (board : Board) (request : Request) :
    Outcome server arrival board request (server.serve arrival board request).1.response
      (server.serve arrival board request).2 := by
  cases declared : server.declaresTooMuch request with
  | false =>
    obtain ⟨response, after⟩ := serve_response declared arrival board
    rw [response, after]
    exact answer_outcome server arrival board request
  | true =>
    unfold Server.serve
    rw [declared]
    exact .tooLong

theorem declaresTooMuch_eq_false_iff (server : Server) (request : Request) :
    server.declaresTooMuch request = false ↔
      ∀ length, request.declaredLength = some length → length ≤ server.maxBodySize := by
  unfold Server.declaresTooMuch
  cases request.declaredLength <;> simp

/-- A request that comes whole and within the limits of length, at a moment when the throttle accepts
one. -/
structure Accepted (server : Server) (arrival : Arrival) (board : Board) (request : Request) :
    Prop where
  declared : ∀ length, request.declaredLength = some length → length ≤ server.maxBodySize
  within : request.body.length ≤ server.maxBodySize
  complete : request.ending = .complete
  ready : board.throttle.accepts arrival.clock = true

theorem readForm?_of_whole {server : Server} {request : Request}
    (within : request.body.length ≤ server.maxBodySize) (complete : request.ending = .complete) :
    server.readForm? request = some (.ok (Form.parse request.query request.body)) := by
  unfold Server.readForm?
  rw [if_neg (Nat.not_lt_of_le within), complete]

/-- An accepted request for a route has this route carried out, if it mutates nothing or brings a
token that holds. -/
theorem serve_of_accepted {server : Server} {arrival : Arrival} {board : Board} {request : Request}
    {route : Route} (accepted : Accepted server arrival board request)
    (found : server.table.find (Request.decodePath request.path) = .ok route)
    (authorized : route.mutates = true →
      board.holds (Form.parse request.query request.body).token? = true) :
    ∃ admitted, Untouched board admitted ∧
      let performed := Board.perform server.exporter admitted arrival.now route
        (Form.parse request.query request.body)
      Answers arrival admitted performed (server.serve arrival board request).1.response ∧
      Untouched performed.2 (server.serve arrival board request).2 := by
  let admitted : Board := { board with throttle := (board.throttle.acquire arrival.clock).2 }
  have untouched : Untouched board admitted := ⟨rfl, rfl, rfl⟩
  have allowed : (!route.mutates ||
      admitted.holds (Form.parse request.query request.body).token?) = true := by
    rw [untouched.holds]
    cases mutates : route.mutates with
    | false => rfl
    | true => exact authorized mutates
  have carried : server.carryOut arrival admitted route request =
      server.dispatch arrival admitted route (Form.parse request.query request.body) := by
    unfold Server.carryOut Board.authorize
    rw [readForm?_of_whole accepted.within accepted.complete]
    simp only [allowed, if_true]
  have unlimited := (declaresTooMuch_eq_false_iff server request).mpr accepted.declared
  obtain ⟨response, after⟩ := serve_response unlimited arrival board
  refine ⟨admitted, untouched, ?_⟩
  rw [response, after]
  unfold Server.answer
  rw [enter_found found, accepted.ready]
  simp only [if_true]
  rw [carried, finish_answer]
  exact ⟨dispatch_answers .., finish_untouched ..⟩

end NoteBoard.Proofs.RequestOutcome
