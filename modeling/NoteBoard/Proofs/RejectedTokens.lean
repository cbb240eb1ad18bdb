import NoteBoard.Proofs.MutationSafety

/-! What a request is told whose token is rejected. The answer and what is counted depend on the
throttle alone: not on what is wrong with the token, nor on the notes, nor on the route. -/

namespace NoteBoard.Proofs.RejectedTokens
open MutationSafety RequestOutcome

/-- What can be wrong with the token of a request: there is none, its id is no number, no token of
this id was issued, or one with another secret was. -/
inductive Rejected (board : Board) (request : Request) : Prop where
  | noId (absent : field? request Token.idField = none)
  | noSecret (absent : field? request Token.secretField = none)
  | malformed {digits : String} (given : field? request Token.idField = some digits)
      (unread : Text.unsigned? Token.largestId digits.toList = none)
  | unknown {token : Token} (submitted : Submits request token)
      (unknown : board.issuer.secrets[token.id]? = none)
  | wrong {token : Token} {secret : String} (submitted : Submits request token)
      (known : board.issuer.secrets[token.id]? = some secret) (wrong : token.secret ≠ secret)

theorem token?_eq (request : Request) :
    (Form.parse request.query request.body).token? =
      (field? request Token.idField).bind fun digits =>
        (Text.unsigned? Token.largestId digits.toList).bind fun id =>
          (field? request Token.secretField).bind fun secret => some ⟨id, secret⟩ := by
  simp only [Form.token?, get?_parse, Option.bind_eq_bind]
  rfl

private theorem token?_of_submits {request : Request} {token : Token}
    (submitted : Submits request token) :
    (Form.parse request.query request.body).token? = some token := by
  obtain ⟨digits, given, read, secret⟩ := submitted
  rw [token?_eq, given, Option.bind_some, read, Option.bind_some, secret]
  rfl

private theorem holds_eq_false_iff (board : Board) (request : Request) :
    board.holds (Form.parse request.query request.body).token? = false ↔
      Rejected board request := by
  constructor
  · intro invalid
    cases submitted : (Form.parse request.query request.body).token? with
    | some token =>
      have submits := submits_of_token? submitted
      rw [submitted] at invalid
      change board.issuer.validate token = false at invalid
      rw [← Bool.not_eq_true, IssuerHistory.validate_iff] at invalid
      cases known : board.issuer.secrets[token.id]? with
      | none => exact .unknown submits known
      | some secret =>
        refine .wrong submits known ?_
        rintro rfl
        exact invalid known
    | none =>
      rw [token?_eq] at submitted
      cases given : field? request Token.idField with
      | none => exact .noId given
      | some digits =>
        cases read : Text.unsigned? Token.largestId digits.toList with
        | none => exact .malformed given read
        | some id =>
          refine .noSecret (Option.eq_none_iff_forall_ne_some.mpr ?_)
          simpa [given, read] using submitted
  · intro rejected
    have missing (absent : (Form.parse request.query request.body).token? = none) :
        board.holds (Form.parse request.query request.body).token? = false := by
      rw [absent]
      rfl
    have invalid {token : Token} (submitted : Submits request token)
        (other : board.issuer.secrets[token.id]? ≠ some token.secret) :
        board.holds (Form.parse request.query request.body).token? = false := by
      rw [token?_of_submits submitted]
      change board.issuer.validate token = false
      rwa [← Bool.not_eq_true, IssuerHistory.validate_iff]
    cases rejected with
    | noId absent => exact missing (by rw [token?_eq, absent]; rfl)
    | noSecret absent => exact missing (by simp [token?_eq, absent])
    | malformed given unread => exact missing (by rw [token?_eq, given, Option.bind_some, unread]; rfl)
    | unknown submitted unknown => exact invalid submitted (by rw [unknown]; simp)
    | wrong submitted known wrong =>
      refine invalid submitted ?_
      rw [known, ne_eq, Option.some.injEq]
      exact wrong.symm

/-- A request to a mutating route, whole and within the limits of length, whose token is rejected. -/
structure Attempt (server : Server) (board : Board) (request : Request) : Prop where
  mutating : ∃ route, server.table.find (Request.decodePath request.path) = .ok route ∧
    route.mutates = true
  declared : ∀ length, request.declaredLength = some length → length ≤ server.maxBodySize
  within : request.body.length ≤ server.maxBodySize
  complete : request.ending = .complete
  rejected : Rejected board request

/-- What an attempt is told and what it counts. It takes the slot of the throttle like any other
request and leaves all else as it was. -/
structure Told (server : Server) (clock : Nat) (board : Board) (reply : Reply) (after : Board) :
    Prop where
  response : reply.response =
    if board.throttle.accepts clock then
      ⟨403, some "text/plain; charset=utf-8", none, "Invalid form token"⟩
    else ⟨429, some "text/plain; charset=utf-8", none, "Slow down"⟩
  contentTypeOptions : reply.contentTypeOptions = if server.hardened then some "nosniff" else none
  frameOptions : reply.frameOptions = if server.hardened then some "DENY" else none
  rejections : after.metrics.tokenRejections =
    board.metrics.tokenRejections + if board.throttle.accepts clock then 1 else 0
  throttle : after.throttle = (board.throttle.acquire clock).2
  notes : after.notes = board.notes
  issuer : after.issuer = board.issuer
  exports : after.exports = board.exports

private theorem carryOut_of_attempt {server : Server} {board : Board} {request : Request}
    {route : Route}
    (mutates : route.mutates = true) (within : request.body.length ≤ server.maxBodySize)
    (complete : request.ending = .complete)
    (invalid : board.holds (Form.parse request.query request.body).token? = false)
    (arrival : Arrival) :
    server.carryOut arrival board route request =
      (some (.error .unauthorized),
        { board with metrics := board.metrics.recordTokenRejected }) := by
  unfold Server.carryOut Board.authorize
  rw [readForm?_of_whole within complete]
  simp [mutates, invalid]

theorem told_of_attempt {server : Server} {board : Board} {request : Request}
    (attempt : Attempt server board request) (arrival : Arrival) :
    Told server arrival.clock board (server.serve arrival board request).1
      (server.serve arrival board request).2 := by
  obtain ⟨route, found, mutates⟩ := attempt.mutating
  unfold Server.serve Server.answer
  rw [(declaresTooMuch_eq_false_iff server request).mpr attempt.declared, enter_found found]
  cases accepted : board.throttle.accepts arrival.clock with
  | true =>
    let admitted : Board := { board with throttle := (board.throttle.acquire arrival.clock).2 }
    have invalid : admitted.holds (Form.parse request.query request.body).token? = false :=
      (holds_eq_false_iff board request).mpr attempt.rejected
    have carried := carryOut_of_attempt mutates attempt.within attempt.complete invalid
      arrival
    simp only [if_true, admitted, carried]
    refine ⟨?_, rfl, rfl, ?_, rfl, rfl, rfl, rfl⟩
    all_goals
      rw [accepted]
      rfl
  | false =>
    have slot : (board.throttle.acquire arrival.clock).2 = board.throttle := by
      simp [Throttle.acquire, accepted]
    refine ⟨?_, rfl, rfl, ?_, slot.symm, rfl, rfl, rfl⟩
    all_goals
      rw [accepted]
      rfl

/-- Whatever is wrong with the tokens of two requests, and whatever notes, tokens and exporter there
are, the same moment brings the same answer: that the throttle is not ready, or that the token is
invalid. The second is counted once. Nothing else changes but the throttle, and this alike. -/
theorem attempts_told_alike (config : Config) (exporter other : Option Exporter)
    {first second : Board} {left right : Arrival} {request twin : Request}
    (slot : first.throttle = second.throttle) (together : left.clock = right.clock)
    (attempt : Attempt (Server.ofConfig config exporter) first request)
    (again : Attempt (Server.ofConfig config other) second twin) :
    let served := (Server.ofConfig config exporter).serve left first request
    let servedTwin := (Server.ofConfig config other).serve right second twin
    Told (Server.ofConfig config exporter) left.clock first served.1 served.2 ∧
      Told (Server.ofConfig config other) right.clock second servedTwin.1 servedTwin.2 ∧
      served.1.response = servedTwin.1.response ∧
      served.1.contentTypeOptions = servedTwin.1.contentTypeOptions ∧
      served.1.frameOptions = servedTwin.1.frameOptions ∧
      served.2.throttle = servedTwin.2.throttle := by
  intro served servedTwin
  have told : Told (Server.ofConfig config exporter) left.clock first served.1 served.2 :=
    told_of_attempt attempt left
  have toldTwin : Told (Server.ofConfig config other) right.clock second servedTwin.1 servedTwin.2 :=
    told_of_attempt again right
  refine ⟨told, toldTwin, ?_, ?_, ?_, ?_⟩
  · rw [told.response, toldTwin.response, slot, together]
  · rw [told.contentTypeOptions, toldTwin.contentTypeOptions]
    rfl
  · rw [told.frameOptions, toldTwin.frameOptions]
    rfl
  · rw [told.throttle, toldTwin.throttle, slot, together]

namespace Guesses

def first : Board := Server.newBoard {} fun _ => 0

def second : Board := { first.issue.2 with notes := (Store.empty.add 0 "mine" "").2 }

def blind : Request := ⟨"POST", "/NewNote/", none, [], none, [], .complete⟩

def close : Request where
  method := "POST"
  path := "/SaveNote/1"
  query := none
  headers := []
  declaredLength := none
  body := Form.encodePairs [("title", "theirs"), (Token.idField, "0"), (Token.secretField, "guess")]
  ending := .complete

def publish : Exporter := fun _ text => .ok text

def early : Arrival := ⟨0, 0, [], false⟩

def late : Arrival := ⟨5, 0, [7], true⟩

theorem blind_attempt : Attempt (Server.ofConfig {} none) first blind := by
  have path : (Server.ofConfig {} none).table.find (Request.decodePath blind.path) =
      .ok .newNote := by decide +kernel
  exact ⟨⟨_, path, rfl⟩, by simp [blind], by decide, rfl, .noId (by decide)⟩

theorem close_attempt : Attempt (Server.ofConfig {} (some publish)) second close := by
  have path : (Server.ofConfig {} (some publish)).table.find (Request.decodePath close.path) =
      .ok (.note .save 1) := by decide +kernel
  have submitted : Submits close ⟨0, "guess"⟩ := ⟨"0", by decide +kernel⟩
  have known : second.issuer.secrets[0]? =
      some (String.ofList (List.replicate Secret.size 'a')) := by decide +kernel
  exact ⟨⟨_, path, rfl⟩, by simp [close], by decide +kernel, rfl,
    .wrong submitted known (by decide +kernel)⟩

end Guesses

/-- A request without a token and one with the wrong secret are told the same. -/
theorem guesses_told_alike :
    Guesses.first.throttle = Guesses.second.throttle ∧
      Guesses.early.clock = Guesses.late.clock ∧
      Attempt (Server.ofConfig {} none) Guesses.first Guesses.blind ∧
      Attempt (Server.ofConfig {} (some Guesses.publish)) Guesses.second Guesses.close ∧
      let served := (Server.ofConfig {} none).serve Guesses.early Guesses.first Guesses.blind
      let servedTwin :=
        (Server.ofConfig {} (some Guesses.publish)).serve Guesses.late Guesses.second Guesses.close
      served.1.response.status = 403 ∧ served.1.response = servedTwin.1.response ∧
        servedTwin.2.metrics.tokenRejections = 1 := by
  have slot : Guesses.first.throttle = Guesses.second.throttle := rfl
  have together : Guesses.early.clock = Guesses.late.clock := rfl
  obtain ⟨told, toldTwin, same, _⟩ := attempts_told_alike {} none (some Guesses.publish) slot
    together Guesses.blind_attempt Guesses.close_attempt
  refine ⟨slot, together, Guesses.blind_attempt, Guesses.close_attempt, ?_, same, toldTwin.rejections⟩
  rw [told.response]
  rfl

end NoteBoard.Proofs.RejectedTokens
