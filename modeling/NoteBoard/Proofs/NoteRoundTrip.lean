import NoteBoard.Proofs.FormSources
import NoteBoard.Proofs.NoteOrigins
import NoteBoard.Proofs.NotePage

/-! The way of a note through the board, from the form that brings it to the page that shows it.
Nothing on the way looks at what the title and the text hold, so each arrives as it was sent. -/

namespace NoteBoard.Proofs.NoteRoundTrip
open DecimalText MutationSafety NoteOrigins NotePage NoteTable PerformEffects RequestOutcome

def fields (title text : String) (token : Token) : List (String × String) := [
  ("title", title),
  ("text", text),
  (Token.idField, toString token.id),
  (Token.secretField, token.secret)]

/-- A request brings the form of a new note. Its query may hold more fields, but those of the body
count first. -/
structure Posts (request : Request) (title text : String) (token : Token) : Prop where
  path : request.path = "/NewNote/"
  body : request.body = Form.encodePairs (fields title text token)

theorem names_distinct (title text : String) (token : Token) :
    ((fields title text token).map Prod.fst).Nodup := by
  change ["title", "text", Token.idField, Token.secretField].Nodup
  decide

section form
variable {request : Request} {title text : String} {token : Token}

theorem parse_eq (posts : Posts request title text token) :
    ∃ query, Form.parse request.query request.body = ⟨fields title text token ++ query⟩ := by
  refine ⟨Form.decodePairs (Utf8.encode (request.query.getD "").toList), ?_⟩
  rw [Form.parse, posts.body, FormRoundTrip.decodePairs_encodePairs]

private theorem title_posted (posts : Posts request title text token) :
    (Form.parse request.query request.body).title = title := by
  obtain ⟨query, parsed⟩ := parse_eq posts
  rw [parsed]
  rfl

private theorem text_posted (posts : Posts request title text token) :
    (Form.parse request.query request.body).text = text := by
  obtain ⟨query, parsed⟩ := parse_eq posts
  rw [parsed]
  rfl

private theorem token_posted (posts : Posts request title text token)
    (within : token.id ≤ Token.largestId) :
    (Form.parse request.query request.body).token? = some token := by
  obtain ⟨query, parsed⟩ := parse_eq posts
  rw [parsed]
  apply FormSources.token?_of_first within
  intro field member
  have listed : field ∈ fields title text token :=
    List.mem_cons_of_mem _ (List.mem_cons_of_mem _ member)
  exact (FormSources.first_of_mem (names_distinct title text token) listed).append query

end form

/-- Every event leaves the note under an id as it is. -/
def Spares (server : Server) (id : Int) : Board → List Server.Event → Prop
  | _, [] => True
  | board, event :: later =>
    row? (server.step board event).notes id = row? board.notes id ∧
      Spares server id (server.step board event) later

theorem Spares.row?_run {server : Server} {id : Int} {board : Board} {later : List Server.Event}
    (spares : Spares server id board later) :
    row? (server.run board later).notes id = row? board.notes id := by
  induction later generalizing board with
  | nil => rfl
  | cons event later ih => exact (ih spares.2).trans spares.1

/-- An event is a request to save or to delete the note under an id. -/
def Alters (server : Server) (id : Int) : Server.Event → Prop
  | .request _ request => ∃ action ∈ [NoteAction.save, .confirmDelete],
      server.table.find (Request.decodePath request.path) = .ok (.note action id)
  | .issue => False

private theorem row?_of_tableChange {now : Int} {form : Form} {before after : Store} {route : Route}
    {id : Int} (change : TableChange now form before after route) (there : row? before id ≠ none)
    (harmless : ∀ action ∈ [NoteAction.save, .confirmDelete], route ≠ .note action id) :
    row? after id = row? before id := by
  cases route with
  | index | addNote | filter => rw [change]
  | newNote =>
    obtain ⟨fresh, free, table⟩ := change
    have different : id ≠ fresh := by
      rintro rfl
      exact there free
    rw [table, Function.update_of_ne different]
  | note action other =>
    cases action with
    | view | edit | delete | paste | confirmPaste => rw [change]
    | save | confirmDelete =>
      have different : id ≠ other := by
        rintro rfl
        exact harmless _ (by simp) rfl
      have table : row? after = _ := change
      rw [table, Function.update_of_ne different]

private theorem row?_of_outcome {server : Server} {arrival : Arrival} {board after : Board}
    {request : Request} {response : Response} {id : Int}
    (came : Outcome server arrival board request response after)
    (there : row? board.notes id ≠ none)
    (harmless : ¬ Alters server id (.request arrival request)) :
    row? after.notes id = row? board.notes id := by
  cases came with
  | tooLong => rfl
  | refused _ untouched | givenUp _ untouched => rw [untouched.notes]
  | @performed route _ admitted _ accepted found authorized untouched answered finished =>
    rw [finished.notes, ← untouched.notes]
    refine row?_of_tableChange (perform_table ..) (by rwa [untouched.notes]) ?_
    rintro action listed rfl
    exact harmless ⟨action, listed, found⟩

private theorem row?_step {server : Server} {board : Board} {event : Server.Event} {id : Int}
    (there : row? board.notes id ≠ none) (harmless : ¬ Alters server id event) :
    row? (server.step board event).notes id = row? board.notes id := by
  cases event with
  | issue => rfl
  | request arrival request =>
    exact row?_of_outcome (serve_outcome server arrival board request) there harmless

private theorem spares_of_harmless {server : Server} {board : Board} {later : List Server.Event}
    {id : Int}
    (there : row? board.notes id ≠ none) (harmless : ∀ event ∈ later, ¬ Alters server id event) :
    Spares server id board later := by
  induction later generalizing board with
  | nil => trivial
  | cons event later ih =>
    obtain ⟨first, rest⟩ := List.forall_mem_cons.mp harmless
    have kept := row?_step there first
    exact ⟨kept, ih (by rwa [kept]) rest⟩

private theorem serve_posted {server : Server} {arrival : Arrival} {board : Board}
    {request : Request}
    {title text : String} {token : Token} (standard : server.table = RouteTable.board)
    (posts : Posts request title text token) (accepted : Accepted server arrival board request)
    (within : token.id ≤ Token.largestId) (valid : board.issuer.validate token = true) :
    (server.serve arrival board request).1.response = ⟨302, none, some "/", ""⟩ ∧
    row? (server.serve arrival board request).2.notes = Function.update (row? board.notes)
      board.notes.nextId (some ⟨board.notes.nextId, title, text, arrival.now, arrival.now⟩) := by
  have found : server.table.find (Request.decodePath request.path) = .ok .newNote := by
    rw [standard, posts.path]
    decide +kernel
  have holds : board.holds (Form.parse request.query request.body).token? = true := by
    rw [token_posted posts within]
    exact valid
  obtain ⟨admitted, untouched, answered, finished⟩ :=
    serve_of_accepted accepted found fun _ => holds
  refine ⟨answered.of_silent rfl, ?_⟩
  rw [finished.notes, ← untouched.notes]
  change row? (admitted.notes.add _ _ _).2 = _
  rw [row?_add, title_posted posts, text_posted posts]

private theorem serve_viewed {server : Server} {arrival : Arrival} {board : Board}
    {request : Request}
    {id : Int} {row : Note} (standard : server.table = RouteTable.board)
    (path : request.path = "/Note/" ++ toString id) (natural : 0 ≤ id) (within : id ≤ Note.largestId)
    (accepted : Accepted server arrival board request) (there : row? board.notes id = some row) :
    (server.serve arrival board request).1.response = .page (Page.note row.readable) := by
  have found : server.table.find (Request.decodePath request.path) = .ok (.note .view id) := by
    rw [standard, path]
    change RouteTable.board.find (Request.decodePath (NoteAction.view.path id)) = _
    rw [decodePath_path _ natural, find_path _ natural within]
  obtain ⟨admitted, untouched, answered, _⟩ :=
    serve_of_accepted accepted found fun mutates => nomatch mutates
  rw [answered.of_silent rfl]
  change responseOf (admitted.view id) = _
  rw [view_eq, untouched.notes, there]
  rfl

/-- A note is stored under an id that was free, as it was sent and with the time of its arrival, and
no other note changes. As long as no event changes it, its page shows its title and its text. -/
structure Arrived (server : Server) (now : Int) (before after : Board) (title text : String)
    (id : Int) : Prop where
  free : row? before.notes id = none
  stored : row? after.notes =
    Function.update (row? before.notes) id (some ⟨id, title, text, now, now⟩)
  shown : ∀ later arrival request, Spares server id after later →
    request.path = "/Note/" ++ toString id →
    Accepted server arrival (server.run after later) request →
    ∃ page, (server.serve arrival (server.run after later) request).1.response =
        ⟨200, some "text/html; charset=utf-8", none, page⟩ ∧
      Shows page title text

/-- At any point of any run from a table with positive ids, posting the form of a new note with a
token given out before adds a note with the title and the text of the form, whatever these are, and
its page shows them. Ids are bounded numbers, so the table must have one left. -/
theorem posted_note_arrives (config : Config) (exporter : Option Exporter) (draws : Nat → UInt64)
    {notes : Store} (positive : ∀ row ∈ notes.rows, 1 ≤ row.id) (earlier : List Server.Event)
    {title text : String} {token : Token} {arrival : Arrival} {request : Request} :
    let server := Server.ofConfig config exporter
    let start := { Server.newBoard config draws with notes }
    let board := server.run start earlier
    let served := server.serve arrival board request
    board.notes.rows.length < Note.largestId → token.id ≤ Token.largestId →
    Issued server start earlier token → Posts request title text token →
    Accepted server arrival board request →
    served.1.response = ⟨302, none, some "/", ""⟩ ∧
      ∃ id, Arrived server arrival.now board served.2 title text id := by
  intro server start board served room within issued posts accepted
  have records : IssuerHistory.Records start.issuer [] := IssuerHistory.records_new draws
  have valid : board.issuer.validate token = true := validates_of_issued server records issued
  have least : 1 ≤ board.notes.nextId := one_le_nextId (run_positive positive earlier)
  obtain ⟨response, stored⟩ := serve_posted rfl posts accepted within valid
  refine ⟨response, board.notes.nextId, row?_nextId _, stored, ?_⟩
  intro later viewing view spares path welcome
  have there : row? (server.run served.2 later).notes board.notes.nextId =
      some ⟨board.notes.nextId, title, text, arrival.now, arrival.now⟩ := by
    rw [spares.row?_run, stored, Function.update_self]
  exact ⟨_, serve_viewed rfl path (by omega) (nextId_le room) welcome there, shows_note _⟩

namespace Markup

def server : Server := Server.ofConfig {} none

def start : Board := { Server.newBoard {} fun _ => 0 with notes := .empty }

def token : Token := start.issuer.issue.1

def title : String := "<b> & \u00E9\x00"
def text : String := "50%+ see\nx.org"

def board : Board := server.run start [.issue]

def posting : Request :=
  ⟨"POST", "/NewNote/", some "title=other", [], none, Form.encodePairs (fields title text token),
    .complete⟩

def arrival : Arrival := ⟨7, 1000, [], false⟩

def served : Reply × Board := server.serve arrival board posting

def later : List Server.Event :=
  [.request ⟨8, 2000, [], false⟩ ⟨"GET", "/", none, [], none, [], .complete⟩]

def viewing : Arrival := ⟨9, 3000, [], false⟩
def view : Request := ⟨"GET", "/Note/1", none, [], none, [], .complete⟩

theorem posts : Posts posting title text token := ⟨rfl, rfl⟩

theorem posting_accepted : Accepted server arrival board posting :=
  ⟨by simp [posting], by decide +kernel, rfl, by decide +kernel⟩

theorem view_accepted : Accepted server viewing (server.run served.2 later) view :=
  ⟨by simp [view], by decide +kernel, rfl, by decide +kernel⟩

theorem token_issued : Issued server start [.issue] token := ⟨[], .issue, [], rfl, .owner⟩

theorem stored_first : row? served.2.notes 1 = some ⟨1, title, text, 7, 7⟩ ∧
    ∀ row ∈ served.2.notes.rows, row.id = 1 := by
  decide +kernel

private theorem later_harmless : ∀ event ∈ later, ¬ Alters server 1 event := by
  rintro event listed
  obtain rfl := List.mem_singleton.mp listed
  have path : server.table.find (Request.decodePath "/") = .ok .index := by decide +kernel
  rintro ⟨action, _, found⟩
  cases path.symm.trans found

theorem later_spares : Spares server 1 served.2 later := by
  refine spares_of_harmless ?_ later_harmless
  rw [stored_first.1]
  exact Option.some_ne_none _

end Markup

/-- A note with markup, a NUL and the characters of percent form is shown as it was sent. -/
theorem posted_markup_arrives :
    (∀ row ∈ Store.empty.rows, 1 ≤ row.id) ∧
    Markup.board.notes.rows.length < Note.largestId ∧
    Markup.token.id ≤ Token.largestId ∧
    Issued Markup.server Markup.start [.issue] Markup.token ∧
    Posts Markup.posting Markup.title Markup.text Markup.token ∧
    Accepted Markup.server Markup.arrival Markup.board Markup.posting ∧
    Markup.served.1.response.status = 302 ∧
    Spares Markup.server 1 Markup.served.2 Markup.later ∧
    Accepted Markup.server Markup.viewing (Markup.server.run Markup.served.2 Markup.later)
      Markup.view ∧
    ∃ page, (Markup.server.serve Markup.viewing (Markup.server.run Markup.served.2 Markup.later)
        Markup.view).1.response = ⟨200, some "text/html; charset=utf-8", none, page⟩ ∧
      Shows page Markup.title Markup.text := by
  have positive : ∀ row ∈ Store.empty.rows, 1 ≤ row.id := by
    intro row member
    cases member
  have room : (Markup.board.notes.rows.length : Int) < Note.largestId := by decide +kernel
  have within : Markup.token.id ≤ Token.largestId := by decide +kernel
  obtain ⟨response, id, shown⟩ := @posted_note_arrives {} none (fun _ => 0) .empty positive
    [.issue] Markup.title Markup.text Markup.token Markup.arrival Markup.posting room within
    Markup.token_issued Markup.posts Markup.posting_accepted
  have arrived :
      Arrived Markup.server 7 Markup.board Markup.served.2 Markup.title Markup.text id := shown
  have redirected : Markup.served.1.response.status = 302 := by
    unfold Markup.served Markup.board Markup.server Markup.start
    exact congrArg Response.status response
  have first : id = 1 := by
    have there := congrFun arrived.stored id
    rw [Function.update_self, row?_eq_some_iff] at there
    exact Markup.stored_first.2 _ there.1
  subst first
  exact ⟨positive, room, within, Markup.token_issued, Markup.posts, Markup.posting_accepted,
    redirected, Markup.later_spares, Markup.view_accepted,
    arrived.shown _ _ _ Markup.later_spares rfl Markup.view_accepted⟩

end NoteBoard.Proofs.NoteRoundTrip
