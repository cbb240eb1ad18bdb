import Mathlib.Data.List.Induction
import NoteBoard.Proofs.IssuerHistory
import NoteBoard.Proofs.PerformEffects
import NoteBoard.Proofs.RequestOutcome
import NoteBoard.Proofs.RouteGrammar

/-! Over any run of a server, the notes change and the exporter is called only for requests that
the throttle accepted, whose path is one of the mutating ones and whose form brings a token issued
earlier in the run. -/

namespace NoteBoard.Proofs.MutationSafety
open NoteTable PerformEffects RequestOutcome RouteGrammar

def MutatingPath (path : String) : Prop :=
  path = "/NewNote/" ∨
  ∃ lead ∈ ["/SaveNote/", "/ConfirmDeleteNote/", "/ConfirmPasteBinNote/"], ∃ digits,
    Digits digits ∧ Text.digitsValue digits ≤ 2 ^ 63 - 1 ∧ path = lead ++ String.ofList digits

def field? (request : Request) (name : String) : Option String :=
  ((Form.decodePairs request.body).lookup name).or
    ((Form.decodePairs (Utf8.encode (request.query.getD "").toList)).lookup name)

def Submits (request : Request) (token : Token) : Prop :=
  ∃ digits, field? request Token.idField = some digits ∧
    Text.unsigned? Token.largestId digits.toList = some token.id ∧
    field? request Token.secretField = some token.secret

/-- An event gives out the next token of the issuer: its owner asks for one, or a request is
answered with a page that carries it. -/
inductive Issues (server : Server) (board : Board) : Server.Event → Token → Prop where
  | owner : Issues server board .issue board.issuer.issue.1
  | page {arrival : Arrival} {request : Request} (document : Html.Document)
      (answered : (server.serve arrival board request).1.response = .page document)
      (carried : Page.tokenFields board.issuer.issue.1 <:+: document)
      (advanced : (server.serve arrival board request).2.issuer = board.issuer.issue.2) :
      Issues server board (.request arrival request) board.issuer.issue.1

/-- A token is given out by one of the events of a run. -/
def Issued (server : Server) (start : Board) (events : List Server.Event) (token : Token) : Prop :=
  ∃ earlier event later, events = earlier ++ event :: later ∧
    Issues server (server.run start earlier) event token

theorem get?_parse (request : Request) (name : String) :
    (Form.parse request.query request.body).get? name = field? request name :=
  List.lookup_append

theorem submits_of_token? {request : Request} {token : Token}
    (submitted : (Form.parse request.query request.body).token? = some token) :
    Submits request token := by
  simp only [Form.token?, get?_parse, Option.bind_eq_bind, Option.bind_eq_some_iff] at submitted
  obtain ⟨digits, foundId, id, read, secret, foundSecret, same⟩ := submitted
  cases same
  exact ⟨digits, foundId, read, foundSecret⟩

private theorem mutatingPath_of_spells {path : String} {route : Route} (spelled : Spells path route)
    (mutates : route.mutates = true) : MutatingPath path := by
  cases route with
  | index | addNote | filter => cases mutates
  | newNote => exact Or.inl spelled
  | note action id =>
    obtain ⟨digits, valid, value, bounded, written⟩ := spelled
    refine Or.inr ⟨action.lead, ?_, digits, valid, ?_, written⟩
    · cases action with
      | view | edit | delete | paste => cases mutates
      | save | confirmDelete | confirmPaste => decide
    · unfold Note.largestId at bounded
      omega

private theorem perform_of_not_mutates (exporter : Option Exporter) (board : Board) (now : Int)
    {route : Route} (form : Form) (harmless : route.mutates = false) :
    (Board.perform exporter board now route form).2.notes = board.notes ∧
      (Board.perform exporter board now route form).2.exports = board.exports := by
  have unchanged := perform_table exporter board now route form
  have calls := perform_exports exporter board now route form
  cases route with
  | newNote => cases harmless
  | index | addNote | filter => exact ⟨unchanged, by simpa [exportCall?] using calls⟩
  | note action id =>
    cases action with
    | save | confirmDelete | confirmPaste => cases harmless
    | view | edit | delete | paste => exact ⟨unchanged, by simpa [exportCall?] using calls⟩

def performed : List Nat := [200, 302, 500]

private theorem page_performed (document : Html.Document) :
    (Response.page document).status ∈ performed := by
  change 200 ∈ performed
  decide

private theorem found_performed (target : String) : (Response.found target).status ∈ performed := by
  unfold Response.found
  split
  all_goals
    change 302 ∈ performed
    decide

private theorem failed_performed (fault : String) :
    (Refusal.failed fault).response.status ∈ performed := by
  change 500 ∈ performed
  decide

theorem perform_status (exporter : Option Exporter) (board : Board) (now : Int) (route : Route)
    (form : Form) :
    (responseOf (Board.perform exporter board now route form).1).status ∈ performed := by
  cases route with
  | index => exact page_performed _
  | addNote => exact page_performed _
  | newNote => exact found_performed _
  | filter field needle =>
    unfold Board.perform Board.listing
    dsimp only
    split
    · exact failed_performed _
    · exact page_performed _
  | note action id =>
    cases action with
    | view =>
      change (responseOf (board.view id)).status ∈ performed
      rw [view_eq]
      cases row? board.notes id with
      | some row => exact page_performed _
      | none => exact failed_performed _
    | edit | delete | paste =>
      change (responseOf (board.prepare id _).1).status ∈ performed
      rw [prepare_eq]
      cases row? board.notes id with
      | some row => exact page_performed _
      | none => exact failed_performed _
    | save =>
      change (responseOf (board.save now id form).1).status ∈ performed
      rcases save_cases board now id form with ⟨row, notes, _, _, equal⟩ | ⟨_, equal⟩
      · rw [equal]
        exact found_performed _
      · rw [equal]
        exact failed_performed _
    | confirmDelete =>
      change (responseOf (board.delete id).1).status ∈ performed
      rcases delete_cases board id with ⟨_, notes, _, _, equal⟩ | ⟨_, equal⟩
      · rw [equal]
        exact found_performed _
      · rw [equal]
        exact failed_performed _
    | confirmPaste =>
      change (responseOf (Board.sendAway exporter board id).1).status ∈ performed
      cases exporter with
      | none => exact failed_performed _
      | some publish =>
        rw [sendAway_eq]
        cases row? board.notes id with
        | none => exact failed_performed _
        | some row =>
          dsimp only
          cases publish (row.title ++ " (ID:" ++ toString id ++ ")") row.text with
          | ok reference => exact found_performed _
          | error error => exact failed_performed _

def turnedAway : List Nat := [400, 403, 404, 413, 429]

theorem performed_not_turnedAway {status : Nat} (carriedOut : status ∈ performed) :
    status ∉ turnedAway := by
  have apart : ∀ status ∈ performed, status ∉ turnedAway := by decide
  exact apart status carriedOut

theorem turnedAway_of_refuses {server : Server} {arrival : Arrival} {board : Board} {request : Request}
    {refusal : Refusal} (reason : Refuses server arrival board request refusal) :
    refusal.response.status ∈ turnedAway := by
  cases reason with
  | throttled | tooLarge | unauthorized => decide
  | unreadable broken =>
    change 400 ∈ turnedAway
    decide
  | @lost error lost =>
    cases error with
    | notFound path =>
      change 404 ∈ turnedAway
      decide
    | invalidId digits =>
      change 400 ∈ turnedAway
      decide

section outcome
variable {server : Server} {arrival : Arrival} {board after : Board} {request : Request}
  {response : Response}

theorem issuer_of_outcome (came : Outcome server arrival board request response after) :
    after.issuer = board.issuer ∨
      after.issuer = board.issuer.issue.2 ∧ ∃ document, response = .page document ∧
        Page.tokenFields board.issuer.issue.1 <:+: document := by
  cases came with
  | tooLong => exact Or.inl rfl
  | refused _ untouched | givenUp _ untouched => exact Or.inl untouched.issuer
  | @performed route _ admitted _ accepted found authorized untouched answered finished =>
    cases given : tokenPage? admitted.notes route with
    | none =>
      have kept := issuer_of_unissued given server.exporter arrival.now
        (Form.parse request.query request.body)
      exact Or.inl (finished.issuer.trans (kept.trans untouched.issuer))
    | some page =>
      rw [perform_of_issued given] at answered finished
      have told := answered.of_silent rfl
      have advanced : after.issuer = admitted.issuer.issue.2 := finished.issuer
      refine Or.inr ⟨?_, page admitted.issuer.issue.1, told, ?_⟩
      · rw [advanced, untouched.issuer]
      · rw [untouched.issuer]
        exact tokenFields_within_page given _

private theorem changes_of_outcome (came : Outcome server arrival board request response after)
    (standard : server.table = RouteTable.board) :
    after.notes = board.notes ∧ after.exports = board.exports ∨
      board.throttle.accepts arrival.clock = true ∧
      MutatingPath (Request.decodePath request.path) ∧
      ∃ token, Submits request token ∧ board.issuer.validate token = true := by
  cases came with
  | tooLong => exact Or.inl ⟨rfl, rfl⟩
  | refused _ untouched | givenUp _ untouched => exact Or.inl ⟨untouched.notes, untouched.exports⟩
  | @performed route _ admitted _ accepted found authorized untouched answered finished =>
    cases mutates : route.mutates with
    | false =>
      obtain ⟨sameNotes, sameExports⟩ := perform_of_not_mutates server.exporter admitted
        arrival.now (Form.parse request.query request.body) mutates
      exact Or.inl ⟨finished.notes.trans (sameNotes.trans untouched.notes),
        finished.exports.trans (sameExports.trans untouched.exports)⟩
    | true =>
      rw [standard] at found
      refine Or.inr ⟨accepted, mutatingPath_of_spells (spells_of_find found) mutates, ?_⟩
      have held := authorized mutates
      unfold Board.holds at held
      split at held
      next token submitted => exact ⟨token, submits_of_token? submitted, held⟩
      next => cases held

private theorem unchanged_of_turnedAway (came : Outcome server arrival board request response after)
    (away : response.status ∈ turnedAway) :
    after.notes = board.notes ∧ after.exports = board.exports := by
  cases came with
  | tooLong => exact ⟨rfl, rfl⟩
  | refused _ untouched | givenUp _ untouched => exact ⟨untouched.notes, untouched.exports⟩
  | performed accepted found authorized untouched answered finished =>
    refine absurd away ?_
    rcases answered with rfl | ⟨rfl, _⟩
    · exact performed_not_turnedAway (perform_status ..)
    · change 408 ∉ turnedAway
      decide

end outcome

theorem step_issuer (server : Server) (board : Board) (event : Server.Event) :
    (server.step board event).issuer = board.issuer ∨
      Issues server board event board.issuer.issue.1 ∧
        (server.step board event).issuer = board.issuer.issue.2 := by
  cases event with
  | issue => exact Or.inr ⟨.owner, rfl⟩
  | request arrival request =>
    rcases issuer_of_outcome (serve_outcome server arrival board request) with
      same | ⟨advanced, document, answered, carried⟩
    · exact Or.inl same
    · exact Or.inr ⟨.page document answered carried advanced, advanced⟩

private theorem validate_issue {issuer : Issuer} {candidate : Token}
    (valid : issuer.issue.2.validate candidate = true) :
    candidate = issuer.issue.1 ∨ issuer.validate candidate = true := by
  rw [IssuerHistory.validate_iff, IssuerHistory.issue_record] at valid
  split at valid
  next newest =>
    cases candidate
    cases valid
    exact Or.inl (congrArg (Token.mk · _) newest)
  next earlier => exact Or.inr ((IssuerHistory.validate_iff issuer candidate).mpr valid)

theorem Issued.append {server : Server} {start : Board} {events : List Server.Event} {token : Token}
    (issued : Issued server start events token) (more : List Server.Event) :
    Issued server start (events ++ more) token := by
  obtain ⟨earlier, event, later, rfl, issues⟩ := issued
  exact ⟨earlier, event, later ++ more, by simp, issues⟩

/-- What validates after a run was given out in the run, if nothing validated before it. -/
theorem issued_of_validates {server : Server} {start : Board}
    (fresh : ∀ token, start.issuer.validate token = false) (events : List Server.Event)
    {token : Token} (valid : (server.run start events).issuer.validate token = true) :
    Issued server start events token := by
  induction events using List.reverseRecOn with
  | nil =>
    rw [Server.run, List.foldl_nil, fresh] at valid
    cases valid
  | append_singleton earlier event ih =>
    rw [Server.run, List.foldl_append, List.foldl_cons, List.foldl_nil] at valid
    rcases step_issuer server (server.run start earlier) event with same | ⟨issues, advanced⟩
    · exact (ih (same ▸ valid)).append [event]
    · rcases validate_issue (advanced ▸ valid) with rfl | before
      · exact ⟨earlier, event, [], rfl, issues⟩
      · exact (ih before).append [event]

theorem validate_new (draws : Nat → UInt64) (token : Token) :
    (Issuer.new draws).validate token = false := by
  rw [Bool.eq_false_iff]
  intro valid
  rw [IssuerHistory.validate_iff] at valid
  cases Std.TreeMap.getElem?_emptyc.symm.trans valid

section tokens
variable (server : Server) {board : Board} {history : List Token}

private theorem step_records (records : IssuerHistory.Records board.issuer history)
    (event : Server.Event) :
    ∃ more, IssuerHistory.Records (server.step board event).issuer (history ++ more) := by
  rcases step_issuer server board event with same | ⟨_, advanced⟩
  · rw [same]
    exact ⟨[], by rwa [List.append_nil]⟩
  · rw [advanced]
    exact ⟨_, records.issue⟩

theorem run_records (records : IssuerHistory.Records board.issuer history)
    (events : List Server.Event) :
    ∃ more, IssuerHistory.Records (server.run board events).issuer (history ++ more) := by
  induction events generalizing board history with
  | nil => exact ⟨[], by rwa [List.append_nil]⟩
  | cons event events ih =>
    obtain ⟨first, stepped⟩ := step_records server records event
    obtain ⟨more, ran⟩ := ih stepped
    exact ⟨first ++ more, by rwa [← List.append_assoc]⟩

theorem validates_after {opened : Board} (records : IssuerHistory.Records opened.issuer history)
    (advanced : board.issuer = opened.issuer.issue.2) (events : List Server.Event) :
    (server.run board events).issuer.validate opened.issuer.issue.1 = true := by
  have issued := records.issue
  rw [← advanced] at issued
  obtain ⟨more, ran⟩ := run_records server issued events
  rw [ran.validate_iff]
  simp

theorem validates_of_issued {start : Board} (records : IssuerHistory.Records start.issuer history)
    {events : List Server.Event} {token : Token} (issued : Issued server start events token) :
    (server.run start events).issuer.validate token = true := by
  obtain ⟨earlier, event, later, rfl, issues⟩ := issued
  obtain ⟨more, ran⟩ := run_records server records earlier
  rw [Server.run, List.foldl_append, List.foldl_cons]
  cases issues with
  | owner => exact validates_after server ran rfl later
  | page document answered carried advanced => exact validates_after server ran advanced later

end tokens

/-- At any point of any run, a request leaves the notes and the calls of the exporter as they were
unless the throttle accepts it, its path is a mutating one and it brings a token, id and secret,
that was given out earlier in the run. One that is turned away always leaves them as they were. -/
theorem changes_only_with_issued_token (config : Config) (exporter : Option Exporter)
    (draws : Nat → UInt64) (notes : Store) (earlier : List Server.Event) (arrival : Arrival)
    (request : Request) :
    let server := Server.ofConfig config exporter
    let start := { Server.newBoard config draws with notes }
    let board := server.run start earlier
    let served := server.serve arrival board request
    (served.2.notes = board.notes ∧ served.2.exports = board.exports ∨
      board.throttle.accepts arrival.clock = true ∧
      MutatingPath (Request.decodePath request.path) ∧
      ∃ token, Submits request token ∧ Issued server start earlier token) ∧
    (served.1.response.status ∈ turnedAway →
      served.2.notes = board.notes ∧ served.2.exports = board.exports) := by
  intro server start board served
  have came : Outcome server arrival board request served.1.response served.2 :=
    serve_outcome server arrival board request
  refine ⟨?_, unchanged_of_turnedAway came⟩
  rcases changes_of_outcome came rfl with same | ⟨accepted, mutating, token, submitted, valid⟩
  · exact Or.inl same
  · have issued : Issued server start earlier token :=
      issued_of_validates (validate_new draws) earlier valid
    exact Or.inr ⟨accepted, mutating, token, submitted, issued⟩

end NoteBoard.Proofs.MutationSafety
