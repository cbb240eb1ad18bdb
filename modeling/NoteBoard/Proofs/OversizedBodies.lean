import NoteBoard.Proofs.ResponseLayers

/-! Bodies over the limit. A declared length is looked at before the gate and a body only behind it,
so the two ways of sending a body agree where the gate admits the request. Where it does not, only
a declared length can make the answer a 413. Neither way touches the notes, the issuer or the calls
of the exporter. -/

namespace NoteBoard.Proofs.OversizedBodies
open RequestOutcome ResponseLayers

/-- The throttle accepts the request and its path leads to a route. -/
structure Admitted (server : Server) (arrival : Arrival) (board : Board) (request : Request) :
    Prop where
  ready : board.throttle.accepts arrival.clock = true
  routed : ∃ route, server.table.find (Request.decodePath request.path) = .ok route

/-- Why a body over the limit is refused if its length is not declared. -/
def refusal (server : Server) (arrival : Arrival) (board : Board) (request : Request) : Refusal :=
  if board.throttle.accepts arrival.clock then
    match server.table.find (Request.decodePath request.path) with
    | .ok _ => .payloadTooLarge
    | .error error => .ofRouteError error
  else .tooManyRequests

section refused
variable {server : Server} {arrival : Arrival} {board : Board} {request : Request}

private theorem carryOut_of_long (long : server.maxBodySize < request.body.length) (route : Route) :
    server.carryOut arrival board route request = (some (.error .payloadTooLarge), board) := by
  unfold Server.carryOut Server.readForm?
  rw [if_pos long]

private theorem serve_of_long (long : server.maxBodySize < request.body.length)
    (undeclared : server.declaresTooMuch request = false) :
    (server.serve arrival board request).1.response =
        (refusal server arrival board request).response ∧
      Untouched board (server.serve arrival board request).2 := by
  obtain ⟨answered, after⟩ := serve_response undeclared arrival board
  rw [answered, after]
  unfold Server.answer refusal
  rw [enter_eq]
  cases board.throttle.accepts arrival.clock with
  | false => exact ⟨rfl, rfl, rfl, rfl⟩
  | true =>
    cases server.table.find (Request.decodePath request.path) with
    | error error => exact ⟨rfl, rfl, rfl, rfl⟩
    | ok route =>
      simp only [if_true]
      rw [carryOut_of_long long]
      exact ⟨rfl, rfl, rfl, rfl⟩

theorem refusal_of_admitted (admitted : Admitted server arrival board request) :
    refusal server arrival board request = .payloadTooLarge := by
  obtain ⟨route, found⟩ := admitted.routed
  unfold refusal
  rw [if_pos admitted.ready, found]

theorem refusal_of_early (early : board.throttle.accepts arrival.clock = false) :
    refusal server arrival board request = .tooManyRequests := by
  unfold refusal
  rw [early]
  rfl

theorem refusal_of_lost (ready : board.throttle.accepts arrival.clock = true) {error : RouteError}
    (lost : server.table.find (Request.decodePath request.path) = .error error) :
    refusal server arrival board request = .ofRouteError error := by
  unfold refusal
  rw [if_pos ready, lost]

private theorem refusal_status_iff :
    (refusal server arrival board request).response.status = 413 ↔
      Admitted server arrival board request := by
  constructor
  · intro tooLarge
    cases ready : board.throttle.accepts arrival.clock with
    | false =>
      rw [refusal_of_early ready] at tooLarge
      cases tooLarge
    | true =>
      refine ⟨ready, ?_⟩
      cases found : server.table.find (Request.decodePath request.path) with
      | ok route => exact ⟨route, rfl⟩
      | error error =>
        rw [refusal_of_lost ready found] at tooLarge
        cases error <;> cases tooLarge
  · intro admitted
    rw [refusal_of_admitted admitted]
    rfl

end refused

def measured (request : Request) : Request :=
  { request with declaredLength := some request.body.length }

def chunked (request : Request) : Request := { request with declaredLength := none }

/-- The answers to a body over the limit, the first to the measured request and the second to the
chunked one. -/
structure Refused (server : Server) (arrival : Arrival) (board : Board) (request : Request)
    (first second : Reply × Board) : Prop where
  measured : first.1.response =
    ⟨413, some "text/plain; charset=utf-8", none, "length limit exceeded"⟩
  unopened : first.2 = board
  untouched : Untouched board second.2
  tooLarge : second.1.response.status = 413 ↔ Admitted server arrival board request
  read : Admitted server arrival board request → second.1.response =
    ⟨413, some "text/plain; charset=utf-8", none, "Request body too large"⟩
  early : board.throttle.accepts arrival.clock = false → second.1.response =
    ⟨429, some "text/plain; charset=utf-8", none, "Slow down"⟩
  lost : board.throttle.accepts arrival.clock = true → ∀ error,
    server.table.find (Request.decodePath request.path) = .error error →
      second.1.response = (Refusal.ofRouteError error).response ∧
      second.1.response.status ∈ [400, 404]

/-- A body over the limit changes nothing, in whichever way it is sent. It is answered 413 if its
length is declared. If not, it is answered 413 if and only if the gate admits the request, and
what the gate turns away has the answer of the throttle or of the router. -/
theorem long_body_refused (config : Config) (exporter : Option Exporter) (arrival : Arrival)
    (board : Board) (request : Request)
    (long : config.security.maxBodySize < request.body.length) :
    let server := Server.ofConfig config exporter
    Refused server arrival board request (server.serve arrival board (measured request))
      (server.serve arrival board (chunked request)) := by
  intro server
  have bare : Bare board (server.serve arrival board (measured request)) := by
    apply serve_bare
    exact decide_eq_true long
  obtain ⟨answered, untouched⟩ :
      (server.serve arrival board (chunked request)).1.response =
          (refusal server arrival board request).response ∧
        Untouched board (server.serve arrival board (chunked request)).2 :=
    serve_of_long long rfl
  refine ⟨bare.response, bare.board, untouched, ?_, ?_, ?_, ?_⟩
  all_goals rw [answered]
  · exact refusal_status_iff
  · intro admitted
    rw [refusal_of_admitted admitted]
    rfl
  · intro early
    rw [refusal_of_early early]
    rfl
  · intro ready error lost
    rw [refusal_of_lost ready lost]
    refine ⟨rfl, ?_⟩
    cases error with
    | notFound path =>
      change 404 ∈ [400, 404]
      decide
    | invalidId digits =>
      change 400 ∈ [400, 404]
      decide

def longPost (path : String) : Request :=
  ⟨"POST", path, none, [], none, List.replicate 17 0x61, .complete⟩

theorem longPost_refused :
    narrow.security.maxBodySize < (longPost "/NewNote/").body.length ∧
      Refused (Server.ofConfig narrow none) ⟨7, 0, [], false⟩ (Server.newBoard narrow fun _ => 0)
        (longPost "/NewNote/")
        ((Server.ofConfig narrow none).serve ⟨7, 0, [], false⟩ (Server.newBoard narrow fun _ => 0)
          (measured (longPost "/NewNote/")))
        ((Server.ofConfig narrow none).serve ⟨7, 0, [], false⟩ (Server.newBoard narrow fun _ => 0)
          (chunked (longPost "/NewNote/"))) := by
  have long : narrow.security.maxBodySize < (longPost "/NewNote/").body.length := by decide
  exact ⟨long, long_body_refused narrow none ⟨7, 0, [], false⟩ (Server.newBoard narrow fun _ => 0)
    (longPost "/NewNote/") long⟩

/-- On a path without a route the two ways of sending a body have different answers. -/
theorem longPost_answered_twice :
    narrow.security.maxBodySize < (longPost "/nowhere").body.length ∧
      ((Server.ofConfig narrow none).serve ⟨7, 0, [], false⟩ (Server.newBoard narrow fun _ => 0)
        (measured (longPost "/nowhere"))).1.response.status = 413 ∧
      ((Server.ofConfig narrow none).serve ⟨7, 0, [], false⟩ (Server.newBoard narrow fun _ => 0)
        (chunked (longPost "/nowhere"))).1.response.status = 404 := by
  decide +kernel

end NoteBoard.Proofs.OversizedBodies
