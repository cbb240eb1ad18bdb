import NoteBoard.Proofs.MutationSafety

/-! The server as layers around the gate. A layer that is added later wraps those before it, and an
answer that a layer gives itself has passed none of the layers it wraps. The headers for browsers
are added before the limit of declared lengths and before the time limit, so the answers of these
two go without them. Layers that leave requests and answers as they are, such as the one that
traces them, are left out; the limit of bodies that declare no length is kept where they are read. -/

namespace NoteBoard.Proofs.ResponseLayers
open MutationSafety RequestOutcome

/-- What a handler comes to: a reply, unless the request is given up, and the board after it. -/
abbrev Handler := Board → Request → Option Reply × Board

abbrev Layer := Handler → Handler

/-- The gate and the routes. They set neither the headers for browsers nor the id. -/
def gate (server : Server) (arrival : Arrival) : Handler := fun board request =>
  let (response, board) := server.answer arrival board request
  (response.map fun response => ⟨response, none, none, []⟩, board)

def editing (edit : Request → Reply → Reply) : Layer := fun inner board request =>
  let (reply, board) := inner board request
  (reply.map (edit request), board)

def contentTypeLayer : Layer := editing fun _ reply =>
  { reply with contentTypeOptions := reply.contentTypeOptions.or (some "nosniff") }

def frameLayer : Layer := editing fun _ reply =>
  { reply with frameOptions := reply.frameOptions.or (some "DENY") }

def lengthLayer (server : Server) : Layer := fun inner board request =>
  if server.declaresTooMuch request then (some ⟨Server.lengthExceeded, none, none, []⟩, board)
  else inner board request

def timeLayer : Layer := fun inner board request =>
  let (reply, board) := inner board request
  (some (reply.getD ⟨Server.timedOut, none, none, []⟩), board)

def idLayer (arrival : Arrival) : Layer := editing fun request reply =>
  { reply with requestId := (request.header? Request.idHeader).getD arrival.freshId }

def browserLayers (server : Server) : List Layer :=
  if server.hardened then [contentTypeLayer, frameLayer] else []

/-- The layers in the order in which they are added. -/
def layers (server : Server) (arrival : Arrival) : List Layer :=
  browserLayers server ++ [lengthLayer server, timeLayer, idLayer arrival]

def wrap (layers : List Layer) (handler : Handler) : Handler :=
  layers.foldl (fun inner layer => layer inner) handler

private theorem wrap_append (first rest : List Layer) (handler : Handler) :
    wrap (first ++ rest) handler = wrap rest (wrap first handler) :=
  List.foldl_append

/-- Behind the time limit there always is an answer. -/
private theorem serve_eq_wrap (server : Server) (arrival : Arrival) (board : Board)
    (request : Request) :
    wrap (layers server arrival) (gate server arrival) board request =
      (some (server.serve arrival board request).1, (server.serve arrival board request).2) := by
  unfold Server.serve layers browserLayers
  cases server.hardened with
  | true =>
    simp only [wrap, if_true, List.cons_append, List.nil_append, List.foldl_cons, List.foldl_nil,
      idLayer, timeLayer, lengthLayer, frameLayer, contentTypeLayer, editing, gate]
    split
    · rfl
    · rcases server.answer arrival board request with ⟨_ | response, after⟩ <;> rfl
  | false =>
    simp only [wrap, Bool.false_eq_true, if_false, List.nil_append, List.foldl_cons, List.foldl_nil,
      idLayer, timeLayer, lengthLayer, editing, gate]
    split
    · rfl
    · rcases server.answer arrival board request with ⟨_ | response, after⟩ <;> rfl

section keeping
variable (board : Board) (request : Request)

/-- What holds of the answer of a wrapped handler holds of the layer's answer. -/
def Keeps (holds : Option Reply × Board → Prop) (layer : Layer) : Prop :=
  ∀ inner : Handler, holds (inner board request) → holds (layer inner board request)

variable {board request}

private theorem wrap_keeps {holds : Option Reply × Board → Prop} {layers : List Layer}
    (keeps : ∀ layer ∈ layers, Keeps board request holds layer) {handler : Handler}
    (before : holds (handler board request)) : holds (wrap layers handler board request) := by
  induction layers generalizing handler with
  | nil => exact before
  | cons layer layers ih =>
    apply ih
    · intro other listed
      exact keeps other (List.mem_cons_of_mem layer listed)
    · exact keeps layer List.mem_cons_self handler before

end keeping

structure Guarded (reply : Reply) : Prop where
  contentTypeOptions : reply.contentTypeOptions = some "nosniff"
  frameOptions : reply.frameOptions = some "DENY"

def Guards (served : Option Reply × Board) : Prop := ∃ reply, served.1 = some reply ∧ Guarded reply

/-- The answer from before the gate: neither of the headers, and a board that is left alone. -/
structure Bare (board : Board) (served : Reply × Board) : Prop where
  response : served.1.response =
    ⟨413, some "text/plain; charset=utf-8", none, "length limit exceeded"⟩
  contentTypeOptions : served.1.contentTypeOptions = none
  frameOptions : served.1.frameOptions = none
  board : served.2 = board

/-- The answer to a request that was given up: neither of the headers. -/
structure Late (reply : Reply) : Prop where
  response : reply.response = ⟨408, none, none, ""⟩
  contentTypeOptions : reply.contentTypeOptions = none
  frameOptions : reply.frameOptions = none

theorem not_guarded {reply : Reply} (bare : reply.contentTypeOptions = none) : ¬ Guarded reply := by
  intro guarded
  cases bare.symm.trans guarded.contentTypeOptions

section answers
variable {server : Server} {arrival : Arrival} {board : Board} {request : Request}

private theorem browserLayers_guard (hardened : server.hardened = true) {response : Response}
    (answered : (server.answer arrival board request).1 = some response) :
    Guards (wrap (browserLayers server) (gate server arrival) board request) := by
  simp only [browserLayers, hardened, if_true, wrap, List.foldl_cons, List.foldl_nil, frameLayer,
    contentTypeLayer, editing, gate, answered]
  exact ⟨_, rfl, rfl, rfl⟩

private theorem lengthLayer_keeps (within : server.declaresTooMuch request = false)
    (holds : Option Reply × Board → Prop) : Keeps board request holds (lengthLayer server) := by
  intro inner before
  unfold lengthLayer
  rw [within]
  exact before

private theorem timeLayer_keeps : Keeps board request Guards timeLayer := by
  intro inner before
  obtain ⟨reply, answered, guarded⟩ := before
  simp only [timeLayer, answered]
  exact ⟨reply, rfl, guarded⟩

private theorem idLayer_keeps : Keeps board request Guards (idLayer arrival) := by
  intro inner before
  obtain ⟨reply, answered, guarded⟩ := before
  simp only [idLayer, editing, answered]
  exact ⟨_, rfl, guarded.contentTypeOptions, guarded.frameOptions⟩

private theorem serve_guarded (hardened : server.hardened = true)
    (within : server.declaresTooMuch request = false) {response : Response}
    (answered : (server.answer arrival board request).1 = some response) :
    Guarded (server.serve arrival board request).1 := by
  have keeps : ∀ layer ∈ [lengthLayer server, timeLayer, idLayer arrival],
      Keeps board request Guards layer := by
    intro layer listed
    rcases List.mem_cons.mp listed with rfl | listed
    · exact lengthLayer_keeps within _
    rcases List.mem_pair.mp listed with rfl | rfl
    · exact timeLayer_keeps
    · exact idLayer_keeps
  have guards := wrap_keeps keeps (browserLayers_guard hardened answered)
  rw [← wrap_append, ← layers, serve_eq_wrap] at guards
  obtain ⟨reply, same, guarded⟩ := guards
  cases same
  exact guarded

theorem serve_bare (exceeded : server.declaresTooMuch request = true) (arrival : Arrival) :
    Bare board (server.serve arrival board request) := by
  unfold Server.serve
  rw [exceeded]
  exact ⟨rfl, rfl, rfl, rfl⟩

private theorem serve_late (within : server.declaresTooMuch request = false)
    (unanswered : (server.answer arrival board request).1 = none) :
    Late (server.serve arrival board request).1 := by
  unfold Server.serve
  rw [within]
  rcases answered : server.answer arrival board request with ⟨_ | response, after⟩
  · exact ⟨rfl, rfl, rfl⟩
  · rw [answered] at unanswered
    cases unanswered

def statuses : List Nat := [200, 302, 400, 403, 404, 413, 429, 500]

theorem status_of_refusal (refusal : Refusal) : refusal.response.status ∈ statuses := by
  cases refusal <;> simp [Refusal.response, Response.plain, Refusal.status, statuses]

theorem dispatch_status {route : Route} {form : Form} {result : Except Refusal Response}
    (done : (server.dispatch arrival board route form).1 = some result) :
    (responseOf result).status ∈ performed := by
  rcases dispatch_cases server arrival board route form with performed | ⟨cut, _⟩
  · cases performed.symm.trans done
    exact perform_status ..
  · cases cut.symm.trans done

private theorem status_of_carried {route : Route} {result : Except Refusal Response}
    (carried : (server.carryOut arrival board route request).1 = some result) :
    (responseOf result).status ∈ statuses := by
  unfold Server.carryOut at carried
  split at carried
  next => cases carried
  next =>
    cases carried
    exact status_of_refusal _
  next form read =>
    split at carried
    next =>
      cases carried
      exact status_of_refusal _
    next =>
      have known : ∀ status ∈ performed, status ∈ statuses := by decide
      exact known _ (dispatch_status carried)

private theorem status_of_answer {response : Response}
    (answered : (server.answer arrival board request).1 = some response) :
    response.status ∈ statuses := by
  unfold Server.answer at answered
  split at answered
  next refusal _ _ =>
    rw [finish_answer] at answered
    cases answered
    exact status_of_refusal refusal
  next route admitted _ =>
    rw [finish_answer] at answered
    obtain ⟨result, carried, rfl⟩ := Option.map_eq_some_iff.mp answered
    exact status_of_carried carried

/-- Behind the limit of lengths an answer is that of the time limit or that of the gate, and its
status tells which. -/
theorem serve_cases (within : server.declaresTooMuch request = false) (arrival : Arrival)
    (board : Board) :
    let served := server.serve arrival board request
    (server.answer arrival board request).1 = none ∧ Late served.1 ∨
      (server.answer arrival board request).1 = some served.1.response ∧
        served.1.response.status ∈ statuses := by
  cases answered : (server.answer arrival board request).1 with
  | none => exact Or.inl ⟨rfl, serve_late within answered⟩
  | some response =>
    have same : (server.serve arrival board request).1.response = response := by
      rw [(serve_response within arrival board).1, answered]
      rfl
    dsimp only
    rw [same]
    exact Or.inr ⟨rfl, status_of_answer answered⟩

end answers

/-- Where the headers for browsers are enabled, an answer of whatever status carries them if and
only if the request did not declare a length above the limit. If it did, the answer has neither.
Left aside is the answer to a request whose time ran out, which has neither as well. -/
theorem guarded_iff_declared_within (config : Config) (exporter : Option Exporter)
    (arrival : Arrival) (board : Board) (request : Request)
    (enabled : config.security.headers = true) :
    let served := (Server.ofConfig config exporter).serve arrival board request
    (served.1.response.status ≠ 408 →
      served.1.response.status ∈ [200, 302, 400, 403, 404, 413, 429, 500] ∧
      (Guarded served.1 ↔
        ∀ length, request.declaredLength = some length → length ≤ config.security.maxBodySize) ∧
      (¬ Guarded served.1 → Bare board served)) ∧
    (served.1.response.status = 408 → Late served.1) := by
  intro served
  have limit := declaresTooMuch_eq_false_iff (Server.ofConfig config exporter) request
  cases declared : (Server.ofConfig config exporter).declaresTooMuch request with
  | true =>
    have bare : Bare board served := serve_bare declared arrival
    rw [bare.response]
    refine ⟨fun _ => ⟨by decide, ⟨fun guarded => ?_, fun within => ?_⟩, fun _ => bare⟩, ?_⟩
    · exact absurd guarded (not_guarded bare.contentTypeOptions)
    · cases (limit.mpr within).symm.trans declared
    · intro status
      cases status
  | false =>
    rcases serve_cases declared arrival board with ⟨_, late⟩ | ⟨answered, known⟩
    · refine ⟨?_, fun _ => late⟩
      intro inTime
      exact absurd (congrArg Response.status late.response) inTime
    · have guarded : Guarded served.1 := serve_guarded enabled declared answered
      refine ⟨fun _ => ⟨known, ⟨fun _ => limit.mp declared, fun _ => guarded⟩, ?_⟩, ?_⟩
      · intro unguarded
        exact absurd guarded unguarded
      · intro late
        rw [late] at known
        exact absurd known (by decide)

def frontPage : Request := ⟨"GET", "/", none, [], none, [], .complete⟩

theorem frontPage_guarded :
    ({} : Config).security.headers = true ∧
      Guarded ((Server.ofConfig {} none).serve ⟨7, 0, [], false⟩ (Server.newBoard {} fun _ => 0)
        frontPage).1 := by
  obtain ⟨inTime, _⟩ := guarded_iff_declared_within {} none ⟨7, 0, [], false⟩
    (Server.newBoard {} fun _ => 0) frontPage rfl
  obtain ⟨_, guarded, _⟩ := inTime (by decide +kernel)
  refine ⟨rfl, guarded.mpr ?_⟩
  intro length declared
  cases declared

def narrow : Config := { security := { maxBodySize := 16 } }

def declaredPost : Request :=
  ⟨"POST", "/", none, [], some 17, List.replicate 17 0x61, .complete⟩

/-- Neither a throttle nor a path stands in the way here: the declared length alone does. -/
theorem declaredPost_unguarded :
    narrow.security.headers = true ∧
      ¬ Guarded ((Server.ofConfig narrow none).serve ⟨7, 0, [], false⟩
        (Server.newBoard narrow fun _ => 0) declaredPost).1 :=
  ⟨rfl, not_guarded (serve_bare rfl ⟨7, 0, [], false⟩).contentTypeOptions⟩

end NoteBoard.Proofs.ResponseLayers
