import NoteBoard.Proofs.NoteOrigins

/-! What a form does that is submitted after other requests. A form is made for an id and not for a
note: it acts on the note that is under its id by then and on nothing else. That is the note it was
made for unless this one was deleted and its id given again. -/

namespace NoteBoard.Proofs.StaleForms
open MutationSafety NoteOrigins NoteTable PerformEffects RequestOutcome

/-- The forms about one note. -/
inductive NoteForm where
  | edit
  | delete
  | paste
  deriving DecidableEq

namespace NoteForm

def shows : NoteForm → NoteAction
  | .edit => .edit
  | .delete => .delete
  | .paste => .paste

def submits : NoteForm → NoteAction
  | .edit => .save
  | .delete => .confirmDelete
  | .paste => .confirmPaste

def page : NoteForm → Note → Token → Html.Document
  | .edit => Page.edit
  | .delete => Page.delete
  | .paste => Page.paste

end NoteForm

/-- What a form does is done to one note: it is saved, it is removed, or it is sent away as it
stands. -/
def ActsOn (form : NoteForm) (now : Int) (fields : Form) (id : Int) (row : Note)
    (before after : Board) : Prop :=
  match form with
  | .edit => row? after.notes = Function.update (row? before.notes) id (some (saved now fields row)) ∧
      after.exports = before.exports
  | .delete => row? after.notes = Function.update (row? before.notes) id none ∧
      after.exports = before.exports
  | .paste => after.notes = before.notes ∧ after.exports =
      before.exports ++ [(row.title ++ " (ID:" ++ toString id ++ ")", row.text)]

private theorem perform_shows (exporter : Option Exporter) (board : Board) (now id : Int)
    (form : NoteForm)
    (fields : Form) :
    Board.perform exporter board now (.note form.shows id) fields = board.prepare id form.page := by
  cases form <;> rfl

private theorem perform_actsOn {exporter : Option Exporter} {board : Board} {now id : Int}
    {form : NoteForm} {fields : Form}
    (redirected : (responseOf
      (Board.perform exporter board now (.note form.submits id) fields).1).status = 302) :
    ∃ row, row? board.notes id = some row ∧ ActsOn form now fields id row board
      (Board.perform exporter board now (.note form.submits id) fields).2 := by
  cases form with
  | edit =>
    change (responseOf (board.save now id fields).1).status = 302 at redirected
    change ∃ row, _ ∧ ActsOn .edit now fields id row board (board.save now id fields).2
    rcases save_cases board now id fields with ⟨row, notes, there, table, equal⟩ | ⟨_, equal⟩
    · rw [equal]
      exact ⟨row, there, table, rfl⟩
    · rw [equal] at redirected
      cases redirected
  | delete =>
    change (responseOf (board.delete id).1).status = 302 at redirected
    change ∃ row, _ ∧ ActsOn .delete now fields id row board (board.delete id).2
    rcases delete_cases board id with ⟨row, notes, there, table, equal⟩ | ⟨_, equal⟩
    · rw [equal]
      exact ⟨row, there, table, rfl⟩
    · rw [equal] at redirected
      cases redirected
  | paste =>
    change (responseOf (Board.sendAway exporter board id).1).status = 302 at redirected
    change ∃ row, _ ∧ ActsOn .paste now fields id row board (Board.sendAway exporter board id).2
    cases exporter with
    | none => cases redirected
    | some publish =>
      rw [sendAway_eq] at redirected ⊢
      cases there : row? board.notes id with
      | none =>
        rw [there] at redirected
        cases redirected
      | some row => exact ⟨row, rfl, rfl, rfl⟩

private theorem perform_missing (exporter : Option Exporter) {board : Board} (now : Int) {id : Int}
    (form : NoteForm) (fields : Form) (gone : row? board.notes id = none) :
    Board.perform exporter board now (.note form.submits id) fields =
      (.error (.ofStoreError (.notFound id)), board) ∨
    form = .paste ∧ exporter = none ∧
      Board.perform exporter board now (.note form.submits id) fields =
        (.error (.ofExportError .disabled), board) := by
  cases form with
  | edit =>
    refine Or.inl ?_
    rcases save_cases board now id fields with ⟨_, _, there, _⟩ | ⟨_, equal⟩
    · rw [gone] at there
      cases there
    · exact equal
  | delete =>
    refine Or.inl ?_
    rcases delete_cases board id with ⟨_, _, there, _⟩ | ⟨_, equal⟩
    · rw [gone] at there
      cases there
    · exact equal
  | paste =>
    cases exporter with
    | none => exact Or.inr ⟨rfl, rfl, rfl⟩
    | some publish =>
      refine Or.inl ?_
      change Board.sendAway (some publish) board id = _
      rw [sendAway_eq, gone]

theorem ActsOn.around {form : NoteForm} {now id : Int} {fields : Form} {row : Note}
    {first before after last : Board} (acts : ActsOn form now fields id row before after)
    (left : Untouched first before) (right : Untouched after last) :
    ActsOn form now fields id row first last := by
  cases form with
  | edit | delete | paste =>
    unfold ActsOn at acts ⊢
    rwa [right.notes, right.exports, ← left.notes, ← left.exports]

section outcome
variable {server : Server} {arrival : Arrival} {board after : Board} {request : Request}
  {response : Response} {form : NoteForm} {id : Int}

private theorem page_of_outcome (came : Outcome server arrival board request response after)
    (path : server.table.find (Request.decodePath request.path) = .ok (.note form.shows id))
    (answered : response.status = 200) :
    ∃ row, row? board.notes id = some row ∧
      response = .page (form.page row.readable board.issuer.issue.1) ∧
      after.issuer = board.issuer.issue.2 := by
  cases came with
  | tooLong => cases answered
  | refused reason untouched =>
    have away := turnedAway_of_refuses reason
    rw [answered] at away
    exact absurd away (by decide)
  | givenUp late untouched => cases answered
  | @performed route _ admitted _ accepted found authorized untouched answers finished =>
    have same : route = .note form.shows id := Except.ok.inj (found.symm.trans path)
    subst same
    rcases answers with rfl | ⟨rfl, _⟩
    case inr => cases answered
    rw [perform_shows, prepare_eq, untouched.notes] at answered finished ⊢
    cases there : row? board.notes id with
    | none =>
      rw [there] at answered
      cases answered
    | some row =>
      rw [there] at finished
      have issuer : after.issuer = admitted.issuer.issue.2 := finished.issuer
      have token : admitted.issue.1 = board.issuer.issue.1 := by
        rw [← untouched.issuer]
        rfl
      refine ⟨row, rfl, ?_, ?_⟩
      · dsimp only [responseOf]
        rw [token]
      · rw [issuer, untouched.issuer]

private theorem actsOn_of_outcome (came : Outcome server arrival board request response after)
    (path : server.table.find (Request.decodePath request.path) = .ok (.note form.submits id))
    (redirected : response.status = 302) :
    ∃ row, row? board.notes id = some row ∧
      ActsOn form arrival.now (Form.parse request.query request.body) id row board after := by
  cases came with
  | tooLong => cases redirected
  | refused reason untouched =>
    have away := turnedAway_of_refuses reason
    rw [redirected] at away
    exact absurd away (by decide)
  | givenUp late untouched => cases redirected
  | @performed route _ admitted _ accepted found authorized untouched answers finished =>
    have same : route = .note form.submits id := Except.ok.inj (found.symm.trans path)
    subst same
    rcases answers with rfl | ⟨rfl, _⟩
    case inr => cases redirected
    obtain ⟨row, there, acts⟩ := perform_actsOn redirected
    exact ⟨row, untouched.notes ▸ there, acts.around untouched finished⟩

/-- A submission whose note is gone changes nothing. If it comes whole and gets past the throttle and
the limits of length, it is told that there is no such note, or that nothing is sent away at all. -/
private theorem unchanged_of_outcome (came : Outcome server arrival board request response after)
    (path : server.table.find (Request.decodePath request.path) = .ok (.note form.submits id))
    (valid : board.holds (Form.parse request.query request.body).token? = true)
    (gone : row? board.notes id = none) :
    after.notes = board.notes ∧ after.exports = board.exports ∧
      (request.ending = .complete →
        response.status ∈ [413, 429] ∨ response = .plain 500 ("Note not found: " ++ toString id) ∨
          form = .paste ∧ server.exporter = none ∧
            response = .plain 500 "Paste export is disabled") := by
  cases came with
  | tooLong => exact ⟨rfl, rfl, fun _ => Or.inl (by decide)⟩
  | refused reason untouched =>
    refine ⟨untouched.notes, untouched.exports, fun complete => ?_⟩
    cases reason with
    | throttled | tooLarge => exact Or.inl (by decide)
    | lost lost =>
      rw [path] at lost
      cases lost
    | unreadable broken => cases complete.symm.trans broken
    | unauthorized found mutates invalid =>
      rw [valid] at invalid
      cases invalid
  | givenUp late untouched =>
    refine ⟨untouched.notes, untouched.exports, fun complete => ?_⟩
    cases complete.symm.trans late
  | @performed route _ admitted _ accepted found authorized untouched answers finished =>
    have same : route = .note form.submits id := Except.ok.inj (found.symm.trans path)
    subst same
    rw [← untouched.notes] at gone
    rcases perform_missing server.exporter arrival.now form
      (Form.parse request.query request.body) gone with equal | ⟨paste, disabled, equal⟩
    · rw [equal] at finished answers
      have told := answers.of_silent rfl
      exact ⟨finished.notes.trans untouched.notes, finished.exports.trans untouched.exports,
        fun _ => Or.inr (Or.inl told)⟩
    · rw [equal] at finished answers
      have told := answers.of_silent rfl
      exact ⟨finished.notes.trans untouched.notes, finished.exports.trans untouched.exports,
        fun _ => Or.inr (Or.inr ⟨paste, disabled, told⟩)⟩

end outcome

/-- A form's way through a run: its note is added, its page is loaded and the form is submitted,
with whatever all clients do before, in between and up to then. -/
structure Course where
  form : NoteForm
  id : Int
  before : List Server.Event
  adding : Server.Event
  since : List Server.Event
  loading : Arrival
  page : Request
  meantime : List Server.Event
  sending : Arrival
  submission : Request

namespace Course

def load (course : Course) : Server.Event := .request course.loading course.page

def opened (course : Course) (server : Server) (start : Board) : Board :=
  server.run start (course.before ++ course.adding :: course.since)

def met (course : Course) (server : Server) (start : Board) : Board :=
  server.run start
    (course.before ++ course.adding :: (course.since ++ course.load :: course.meantime))

def shown (course : Course) (server : Server) (start : Board) : Reply :=
  (server.serve course.loading (course.opened server start) course.page).1

def served (course : Course) (server : Server) (start : Board) : Reply × Board :=
  server.serve course.sending (course.met server start) course.submission

def fields (course : Course) : Form :=
  Form.parse course.submission.query course.submission.body

def token (course : Course) (server : Server) (start : Board) : Token :=
  (course.opened server start).issuer.issue.1

/-- The page is loaded while the note is there, and it is submitted with its own token. -/
structure Taken (course : Course) (server : Server) (start : Board) : Prop where
  origin : Origin server start course.id course.before course.adding course.since
  asks : server.table.find (Request.decodePath course.page.path) =
    .ok (.note course.form.shows course.id)
  answered : (course.shown server start).response.status = 200
  submits : server.table.find (Request.decodePath course.submission.path) =
    .ok (.note course.form.submits course.id)
  carries : course.fields.token? = some (course.token server start)

/-- The note that the submission meets is the one whose page was loaded. -/
def Same (course : Course) (server : Server) (start : Board) : Prop :=
  Origin server start course.id course.before course.adding
    (course.since ++ course.load :: course.meantime)

/-- The note whose page was loaded is gone, and its id was given again to the one that the submission
meets. -/
def Replaced (course : Course) (server : Server) (start : Board) : Prop :=
  ∃ gone anew rest, course.meantime = gone ++ anew :: rest ∧
    row? (server.run start
      (course.before ++ course.adding :: (course.since ++ course.load :: gone))).notes course.id =
        none ∧
    Origin server start course.id
      (course.before ++ course.adding :: (course.since ++ course.load :: gone)) anew rest

structure Ends (course : Course) (server : Server) (start : Board) : Prop where
  page : ∃ row, row? (course.opened server start).notes course.id = some row ∧
    (course.shown server start).response =
      .page (course.form.page row.readable (course.token server start))
  redirected : (course.served server start).1.response.status = 302 →
    (∃ row, row? (course.met server start).notes course.id = some row ∧
      ActsOn course.form course.sending.now course.fields course.id row (course.met server start)
        (course.served server start).2) ∧
    (course.Same server start ∨ course.Replaced server start)
  missing : row? (course.met server start).notes course.id = none →
    (course.served server start).2.notes = (course.met server start).notes ∧
    (course.served server start).2.exports = (course.met server start).exports ∧
    (course.submission.ending = .complete →
      (course.served server start).1.response.status ∈ [413, 429] ∨
      (course.served server start).1.response =
        .plain 500 ("Note not found: " ++ toString course.id) ∨
      course.form = .paste ∧ server.exporter = none ∧
        (course.served server start).1.response = .plain 500 "Paste export is disabled")

private theorem same_or_replaced {course : Course} {server : Server} {start : Board}
    (taken : course.Taken server start)
    (there : row? (course.met server start).notes course.id ≠ none) :
    course.Same server start ∨ course.Replaced server start := by
  rcases taken.origin.after (course.load :: course.meantime) with absent | same | replaced
  · exact absurd absent there
  · exact Or.inl same
  · obtain ⟨gone, anew, rest, split, origin⟩ := replaced
    cases gone with
    | nil =>
      obtain ⟨rfl, _⟩ := List.cons.inj split
      obtain ⟨arrival, request, same, adds⟩ := origin.added.requested
      cases same
      rw [taken.asks] at adds
      cases adds
    | cons first gone =>
      obtain ⟨rfl, between⟩ := List.cons.inj split
      exact Or.inr ⟨gone, anew, rest, between, origin.added.free, origin⟩

end Course

/-- A form acts, if it is answered with a redirect, on the note that is then under its id and on no
other. That is the note whose page was loaded, unless that one was deleted and a note added in the
meantime was given its id. If there is no note under the id, the form changes nothing. -/
theorem form_acts_under_its_id (config : Config) (exporter : Option Exporter)
    (draws : Nat → UInt64) (course : Course)
    (taken : course.Taken (Server.ofConfig config exporter) (Server.newBoard config draws)) :
    course.Ends (Server.ofConfig config exporter) (Server.newBoard config draws) := by
  generalize Server.ofConfig config exporter = server at taken ⊢
  have fresh : IssuerHistory.Records (Server.newBoard config draws).issuer [] :=
    IssuerHistory.records_new draws
  obtain ⟨_, records⟩ := run_records server fresh (course.before ++ course.adding :: course.since)
  generalize Server.newBoard config draws = start at taken records ⊢
  obtain ⟨row, there, page, advanced⟩ := page_of_outcome
    (serve_outcome server course.loading (course.opened server start) course.page)
    taken.asks taken.answered
  have came := serve_outcome server course.sending (course.met server start) course.submission
  have valid : (course.met server start).holds course.fields.token? = true := by
    rw [taken.carries]
    have met : course.met server start = server.run
        (server.serve course.loading (course.opened server start) course.page).2
        course.meantime := by
      unfold Course.met
      rw [← List.cons_append, ← List.append_assoc, run_append]
      rfl
    unfold Board.holds
    rw [met]
    exact validates_after server records advanced course.meantime
  constructor
  · exact ⟨row, there, page⟩
  · intro redirected
    obtain ⟨row, there, acts⟩ := actsOn_of_outcome came taken.submits redirected
    refine ⟨⟨row, there, acts⟩, Course.same_or_replaced taken ?_⟩
    rw [there]
    exact Option.some_ne_none row
  · exact unchanged_of_outcome came taken.submits valid

namespace Reuse

def server : Server := Server.ofConfig {} none

def start : Board := Server.newBoard {} fun _ => 0

def tick (n : Nat) : Arrival := ⟨n, 1000 * n, [], false⟩

def asks (path : String) : Request := ⟨"GET", path, none, [], none, [], .complete⟩

def sends (path : String) (token : Nat) (title : String) : Request where
  method := "POST"
  path
  query := none
  headers := []
  declaredLength := none
  body := Form.encodePairs [("title", title), (Token.idField, toString token),
    (Token.secretField, "")] ++ List.replicate Secret.size 0x61
  ending := .complete

def adding : Server.Event := .request (tick 1) (sends "/NewNote/" 0 "mine")
def removal : Server.Event := .request (tick 4) (sends "/ConfirmDeleteNote/1" 0 "")

/-- After the page is loaded another client deletes the note and adds one. -/
def course : Course where
  form := .edit
  id := 1
  before := [.issue]
  adding
  since := []
  loading := tick 2
  page := asks "/EditNote/1"
  meantime := [.request (tick 3) (asks "/PasteBinNote/1"), removal,
    .request (tick 5) (sends "/NewNote/" 0 "theirs")]
  sending := tick 6
  submission := sends "/SaveNote/1" 1 "mine again"

def unsent : Course where
  form := .paste
  id := 1
  before := [.issue]
  adding
  since := [course.load]
  loading := tick 3
  page := asks "/PasteBinNote/1"
  meantime := [removal]
  sending := tick 5
  submission := sends "/ConfirmPasteBinNote/1" 2 ""

def hasty : Course := { unsent with sending := tick 4 }

/-- What the server answers on the way of these courses, by running it. -/
private theorem runs :
    (server.table.find (Request.decodePath "/NewNote/") = .ok .newNote ∧
      (server.run start course.before).notes.nextId = 1 ∧
      row? (server.run start (course.before ++ [adding])).notes 1 ≠ none ∧
      row? (server.run start (course.before ++ adding :: [course.load])).notes 1 ≠ none) ∧
    (server.table.find (Request.decodePath course.page.path) = .ok (.note .edit 1) ∧
      (course.shown server start).response.status = 200 ∧
      server.table.find (Request.decodePath course.submission.path) = .ok (.note .save 1) ∧
      course.fields.token? = some (course.token server start)) ∧
    ((row? (course.met server start).notes 1).map Note.title = some "theirs" ∧
      (course.served server start).1.response.status = 302 ∧
      (row? (course.served server start).2.notes 1).map Note.title = some "mine again") ∧
    (server.table.find (Request.decodePath unsent.page.path) = .ok (.note .paste 1) ∧
      (unsent.shown server start).response.status = 200 ∧
      server.table.find (Request.decodePath unsent.submission.path) = .ok (.note .confirmPaste 1) ∧
      unsent.fields.token? = some (unsent.token server start)) ∧
    row? (unsent.met server start).notes 1 = none ∧
      (unsent.served server start).1.response = .plain 500 "Paste export is disabled" ∧
      (hasty.served server start).1.response.status = 429 := by
  decide +kernel

theorem adds : Adds server (server.run start course.before) adding course.id := by
  obtain ⟨⟨found, next, there, _⟩, _⟩ := runs
  rw [run_concat] at there
  exact ⟨⟨_, _, rfl, found⟩, next, there⟩

theorem course_taken : course.Taken server start := by
  obtain ⟨_, ⟨asks, answered, submits, carries⟩, _⟩ := runs
  exact ⟨adds.origin, asks, answered, submits, carries⟩

theorem unsent_taken : unsent.Taken server start := by
  obtain ⟨⟨_, _, _, there⟩, _, _, ⟨asks, answered, submits, carries⟩, _⟩ := runs
  exact ⟨adds.origin.concat there, asks, answered, submits, carries⟩

private theorem hasty_taken : hasty.Taken server start := by
  obtain ⟨origin, asks, answered, submits, carries⟩ := unsent_taken
  exact ⟨origin, asks, answered, submits, carries⟩

theorem course_not_same : ¬ course.Same server start := by
  intro same
  obtain ⟨_, _, _, _, gone, _⟩ := runs
  exact same.kept [course.load, unsent.load, removal] ⟨_, rfl⟩ gone

end Reuse

/-- An edit form whose note was deleted, and its id given again, overwrites the later note. -/
theorem form_acts_under_a_reused_id :
    Reuse.course.Taken Reuse.server Reuse.start ∧ Reuse.course.Ends Reuse.server Reuse.start ∧
      (Reuse.course.served Reuse.server Reuse.start).1.response.status = 302 ∧
      Reuse.course.Replaced Reuse.server Reuse.start := by
  have ends : Reuse.course.Ends Reuse.server Reuse.start :=
    form_acts_under_its_id {} none (fun _ => 0) Reuse.course Reuse.course_taken
  obtain ⟨_, _, ⟨_, redirected, _⟩, _⟩ := Reuse.runs
  exact ⟨Reuse.course_taken, ends, redirected,
    (ends.redirected redirected).2.resolve_left Reuse.course_not_same⟩

/-- A form can reach a note that was added after its page was loaded. And a form whose note is gone
is not always told so: the throttle and a missing exporter are looked at first. -/
theorem stale_form_reaches_a_later_note :
    (Reuse.course.Taken Reuse.server Reuse.start ∧
      (Reuse.course.served Reuse.server Reuse.start).1.response.status = 302 ∧
      ¬ Reuse.course.Same Reuse.server Reuse.start ∧
      (row? (Reuse.course.met Reuse.server Reuse.start).notes 1).map Note.title = some "theirs" ∧
      (row? (Reuse.course.served Reuse.server Reuse.start).2.notes 1).map Note.title =
        some "mine again") ∧
    Reuse.unsent.Taken Reuse.server Reuse.start ∧ Reuse.hasty.Taken Reuse.server Reuse.start ∧
      row? (Reuse.unsent.met Reuse.server Reuse.start).notes 1 = none ∧
      (Reuse.unsent.served Reuse.server Reuse.start).1.response =
        .plain 500 "Paste export is disabled" ∧
      (Reuse.hasty.served Reuse.server Reuse.start).1.response.status = 429 := by
  obtain ⟨_, _, ⟨theirs, redirected, overwritten⟩, _, gone, disabled, throttled⟩ := Reuse.runs
  exact ⟨⟨Reuse.course_taken, redirected, Reuse.course_not_same, theirs, overwritten⟩,
    Reuse.unsent_taken, Reuse.hasty_taken, gone, disabled, throttled⟩

end NoteBoard.Proofs.StaleForms
