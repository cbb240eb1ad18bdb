import NoteBoard.Board.Action
import NoteBoard.Proofs.NoteTable

/-! What carrying out a route does to the board: to the table of notes, to the issuer and to the
calls of the exporter, and that a failure leaves no part of a change behind. -/

namespace NoteBoard.Proofs.PerformEffects
open NoteTable

/-- A note saved with the fields of a form. Its change date moves only if something differs. -/
def saved (now : Int) (form : Form) (row : Note) : Note where
  id := row.id
  title := form.title
  text := form.text
  added := row.added
  changed := if row.title ≠ form.title ∨ row.text ≠ form.text then now else row.changed

def TableChange (now : Int) (form : Form) (before after : Store) : Route → Prop
  | .newNote => ∃ id, row? before id = none ∧
      row? after = Function.update (row? before) id (some ⟨id, form.title, form.text, now, now⟩)
  | .note .save id =>
      row? after = Function.update (row? before) id ((row? before id).map (saved now form))
  | .note .confirmDelete id => row? after = Function.update (row? before) id none
  | .index | .addNote | .filter .. => after = before
  | .note .view _ | .note .edit _ | .note .delete _ | .note .paste _ | .note .confirmPaste _ =>
      after = before

/-- The page with a form token that a route answers with, if it answers with one. -/
def tokenPage? (notes : Store) : Route → Option (Token → Html.Document)
  | .addNote => some Page.add
  | .note .edit id => (row? notes id).map fun row => Page.edit row.readable
  | .note .delete id => (row? notes id).map fun row => Page.delete row.readable
  | .note .paste id => (row? notes id).map fun row => Page.paste row.readable
  | .index | .newNote | .filter .. => none
  | .note .view _ | .note .save _ | .note .confirmDelete _ | .note .confirmPaste _ => none

/-- The call of the exporter that a route makes, if it makes one. -/
def exportCall? (exporter : Option Exporter) (notes : Store) : Route → Option (String × String)
  | .note .confirmPaste id =>
    if exporter.isSome then
      (row? notes id).map fun row => (row.title ++ " (ID:" ++ toString id ++ ")", row.text)
    else none
  | .index | .addNote | .newNote | .filter .. => none
  | .note .view _ | .note .edit _ | .note .delete _ | .note .paste _ | .note .save _
  | .note .confirmDelete _ => none

/-- The effects of carrying out a route, and their absence where it fails. -/
structure Effects (exporter : Option Exporter) (board : Board) (now : Int) (route : Route)
    (form : Form) (result : Except Refusal Response) (after : Board) : Prop where
  table : TableChange now form board.notes after.notes route
  calls : after.exports = board.exports ++ (exportCall? exporter board.notes route).toList
  issued : ∀ page, tokenPage? board.notes route = some page →
    after.issuer = board.issuer.issue.2 ∧
    result = .ok (.page (page board.issuer.issue.1)) ∧
    Page.tokenFields board.issuer.issue.1 <:+: page board.issuer.issue.1
  unissued : tokenPage? board.notes route = none → after.issuer = board.issuer
  throttle : after.throttle = board.throttle
  failed : ∀ refusal, result = .error refusal →
    after.notes = board.notes ∧ after.issuer = board.issuer

theorem body_within_layout (title : String) (body : Html.Document) :
    body <:+: Page.layout title body :=
  List.infix_append _ _ _

theorem tokenFields_within_noteFields (title text : String) (token : Token) :
    Page.tokenFields token <:+: Page.noteFields title text token :=
  (List.suffix_append _ _).isInfix

private theorem tokenFields_within_add (token : Token) :
    Page.tokenFields token <:+: Page.add token :=
  ((tokenFields_within_noteFields "" "" token).trans (List.infix_append _ _ _)).trans
    (body_within_layout _ _)

private theorem tokenFields_within_edit (note : Note) (token : Token) :
    Page.tokenFields token <:+: Page.edit note token :=
  ((tokenFields_within_noteFields note.title note.text token).trans (List.infix_append _ _ _)).trans
    (body_within_layout _ _)

theorem tokenFields_within_confirm (heading : String) (question : Html.Document)
    (action : NoteAction) (button : String) (note : Note) (token : Token) :
    Page.tokenFields token <:+: Page.confirm heading question action button note token :=
  (List.infix_append _ _ _).trans (body_within_layout _ _)

theorem tokenFields_within_page {notes : Store} {route : Route} {page : Token → Html.Document}
    (answered : tokenPage? notes route = some page) (token : Token) :
    Page.tokenFields token <:+: page token := by
  cases route with
  | index | newNote | filter => cases answered
  | addNote =>
    cases answered
    exact tokenFields_within_add token
  | note action id =>
    cases action with
    | view | save | confirmDelete | confirmPaste => cases answered
    | edit =>
      obtain ⟨row, _, rfl⟩ := Option.map_eq_some_iff.mp answered
      exact tokenFields_within_edit row.readable token
    | delete =>
      obtain ⟨row, _, rfl⟩ := Option.map_eq_some_iff.mp answered
      exact tokenFields_within_confirm _ _ _ _ row.readable token
    | paste =>
      obtain ⟨row, _, rfl⟩ := Option.map_eq_some_iff.mp answered
      exact tokenFields_within_confirm _ _ _ _ row.readable token

theorem prepare_eq (board : Board) (id : Int) (page : Note → Token → Html.Document) :
    board.prepare id page = match row? board.notes id with
      | some row => (.ok (.page (page row.readable board.issue.1)), board.issue.2)
      | none => (.error (.ofStoreError (.notFound id)), board) := by
  unfold Board.prepare
  rw [get_eq]
  cases row? board.notes id <;> rfl

theorem view_eq (board : Board) (id : Int) :
    board.view id = match row? board.notes id with
      | some row => .ok (.page (Page.note row.readable))
      | none => .error (.ofStoreError (.notFound id)) := by
  unfold Board.view
  rw [get_eq]
  cases row? board.notes id <;> rfl

theorem save_cases (board : Board) (now id : Int) (form : Form) :
    (∃ row notes, row? board.notes id = some row ∧
      row? notes = Function.update (row? board.notes) id (some (saved now form row)) ∧
      board.save now id form = (.ok (.found (NoteAction.view.path id)), { board with notes })) ∨
    row? board.notes id = none ∧
      board.save now id form = (.error (.ofStoreError (.notFound id)), board) := by
  unfold Board.save
  rw [get_eq]
  cases found : row? board.notes id with
  | none => exact Or.inr ⟨rfl, rfl⟩
  | some row =>
    refine Or.inl ?_
    have present : board.notes.has id = true := by rw [has_eq_isSome, found]; rfl
    by_cases differs : row.readable.differs form.title form.text = true
    · have changes : row.title ≠ form.title ∨ row.text ≠ form.text := by
        simpa [Note.differs, Note.readable] using differs
      cases updated : board.notes.update now id form.title form.text with
      | error error => simp [Store.update, present] at updated
      | ok notes =>
        refine ⟨row, notes, rfl, ?_, by simp only [differs, if_true]⟩
        rw [update_eq_ok updated, found, saved, if_pos changes]
        rfl
    · have same : row.title = form.title ∧ row.text = form.text := by
        simpa [Note.differs, Note.readable] using differs
      refine ⟨row, board.notes, rfl, ?_, by simp only [differs]; rfl⟩
      rw [saved, if_neg (by simp [same]), ← same.1, ← same.2]
      exact (Function.update_eq_self_iff.mpr found.symm).symm

theorem delete_cases (board : Board) (id : Int) :
    (∃ row notes, row? board.notes id = some row ∧
      row? notes = Function.update (row? board.notes) id none ∧
      board.delete id = (.ok (.found "/"), { board with notes })) ∨
    row? board.notes id = none ∧
      board.delete id = (.error (.ofStoreError (.notFound id)), board) := by
  unfold Board.delete
  by_cases present : board.notes.has id = true
  · cases deleted : board.notes.delete id with
    | error error => simp [Store.delete, present] at deleted
    | ok notes =>
      rw [has_eq_isSome] at present
      obtain ⟨row, found⟩ := Option.isSome_iff_exists.mp present
      exact Or.inl ⟨row, notes, found, delete_eq_ok deleted, rfl⟩
  · refine Or.inr ⟨?_, by simp only [Store.delete, present]; rfl⟩
    simpa [has_eq_isSome] using present

theorem sendAway_eq (publish : Exporter) (board : Board) (id : Int) :
    Board.sendAway (some publish) board id = match row? board.notes id with
      | some row =>
        let title := row.title ++ " (ID:" ++ toString id ++ ")"
        let result := match publish title row.text with
          | .ok reference => .ok (.found reference)
          | .error error => .error (.ofExportError error)
        (result, { board with exports := board.exports ++ [(title, row.text)] })
      | none => (.error (.ofStoreError (.notFound id)), board) := by
  unfold Board.sendAway
  dsimp only
  rw [get_eq]
  cases found : row? board.notes id with
  | none => rfl
  | some row =>
    have title : Board.exportTitle row.readable = row.title ++ " (ID:" ++ toString id ++ ")" := by
      rw [← id_of_row? found]
      rfl
    simp only [title]
    cases published : publish (row.title ++ " (ID:" ++ toString id ++ ")") row.readable.text with
    | ok reference => rw [show row.text = row.readable.text from rfl, published]
    | error error => rw [show row.text = row.readable.text from rfl, published]

/-- A page with a form token is all that its route does, apart from issuing the token. -/
theorem perform_of_issued {board : Board} {route : Route} {page : Token → Html.Document}
    (answered : tokenPage? board.notes route = some page) (exporter : Option Exporter) (now : Int)
    (form : Form) :
    Board.perform exporter board now route form =
      (.ok (.page (page board.issue.1)), board.issue.2) := by
  cases route with
  | index | newNote | filter => cases answered
  | addNote =>
    cases answered
    rfl
  | note action id =>
    cases action with
    | view | save | confirmDelete | confirmPaste => cases answered
    | edit | delete | paste =>
      obtain ⟨row, found, rfl⟩ := Option.map_eq_some_iff.mp answered
      change board.prepare id _ = _
      rw [prepare_eq, found]

private theorem exportCall?_of_issued {exporter : Option Exporter} {notes : Store} {route : Route}
    {page : Token → Html.Document} (answered : tokenPage? notes route = some page) :
    exportCall? exporter notes route = none := by
  cases route with
  | index | newNote | filter => cases answered
  | addNote => rfl
  | note action id =>
    cases action with
    | view | save | confirmDelete | confirmPaste => cases answered
    | edit | delete | paste => rfl

/-- A route that issues no token looks at the notes alone and leaves the throttle, the issuer and
the metrics as it finds them. -/
theorem perform_of_unissued {board other : Board} {route : Route}
    (unanswered : tokenPage? board.notes route = none) (same : other.notes = board.notes)
    (exporter : Option Exporter) (now : Int) (form : Form) :
    let performed := Board.perform exporter board now route form
    Board.perform exporter other now route form = (performed.1,
      { other with
        notes := performed.2.notes
        exports := other.exports ++ (exportCall? exporter board.notes route).toList }) := by
  obtain ⟨throttle, notes, issuer, exports, metrics⟩ := other
  obtain ⟨throttle', notes', issuer', exports', metrics'⟩ := board
  obtain rfl : notes = notes' := same
  intro performed
  cases route with
  | addNote => cases unanswered
  | index | newNote | filter =>
    simp [performed, Board.perform, Board.addNote, Board.listing, exportCall?]
  | note action id =>
    cases action with
    | view => simp [performed, Board.perform, Board.view, exportCall?]
    | edit | delete | paste =>
      have missing : row? notes id = none := Option.map_eq_none_iff.mp unanswered
      simp [performed, Board.perform, prepare_eq, missing, exportCall?]
    | save =>
      simp only [performed, Board.perform, Board.save, exportCall?, Option.toList_none,
        List.append_nil]
      cases notes.get id with
      | error error => rfl
      | ok note =>
        dsimp only
        split
        · cases notes.update now id form.title form.text <;> rfl
        · rfl
    | confirmDelete =>
      simp only [performed, Board.perform, Board.delete, exportCall?, Option.toList_none,
        List.append_nil]
      cases notes.delete id <;> rfl
    | confirmPaste =>
      cases exporter with
      | none => simp [performed, Board.perform, Board.sendAway, exportCall?]
      | some publish =>
        simp only [performed, Board.perform, sendAway_eq, exportCall?, Option.isSome_some, if_true]
        cases row? notes id with
        | none => simp
        | some row => rfl

theorem issuer_of_unissued {board : Board} {route : Route}
    (unanswered : tokenPage? board.notes route = none) (exporter : Option Exporter) (now : Int)
    (form : Form) : (Board.perform exporter board now route form).2.issuer = board.issuer := by
  have framed := perform_of_unissued unanswered (Eq.refl board.notes) exporter now form
  exact congrArg (·.2.issuer) framed

theorem perform_metrics (exporter : Option Exporter) (board : Board) (now : Int) (route : Route)
    (form : Form) :
    let after := (Board.perform exporter board now route form).2
    after.issuer = board.issuer ∧ after.metrics = board.metrics ∨
      after.issuer = board.issuer.issue.2 ∧
        after.metrics = board.metrics.recordTokenIssued board.issuer.issue.2.size := by
  intro after
  cases answered : tokenPage? board.notes route with
  | none =>
    have framed := perform_of_unissued answered (Eq.refl board.notes) exporter now form
    exact Or.inl ⟨congrArg (·.2.issuer) framed, congrArg (·.2.metrics) framed⟩
  | some page =>
    have issued := perform_of_issued answered exporter now form
    exact Or.inr ⟨congrArg (·.2.issuer) issued, congrArg (·.2.metrics) issued⟩

theorem metrics_of_called {exporter : Option Exporter} {board : Board} {now : Int} {route : Route}
    {form : Form}
    (called : (Board.perform exporter board now route form).2.exports ≠ board.exports) :
    (Board.perform exporter board now route form).2.metrics = board.metrics := by
  cases answered : tokenPage? board.notes route with
  | none =>
    have framed := perform_of_unissued answered (Eq.refl board.notes) exporter now form
    exact congrArg (·.2.metrics) framed
  | some page =>
    rw [perform_of_issued answered] at called
    exact absurd rfl called

theorem perform_throttle (exporter : Option Exporter) (board : Board) (now : Int) (route : Route)
    (form : Form) : (Board.perform exporter board now route form).2.throttle = board.throttle := by
  cases answered : tokenPage? board.notes route with
  | none =>
    have framed := perform_of_unissued answered (Eq.refl board.notes) exporter now form
    exact congrArg (·.2.throttle) framed
  | some page =>
    have issued := perform_of_issued answered exporter now form
    exact congrArg (·.2.throttle) issued

/-- The call is made before its outcome is known, so a failed export has made it as well. -/
theorem perform_exports (exporter : Option Exporter) (board : Board) (now : Int) (route : Route)
    (form : Form) :
    (Board.perform exporter board now route form).2.exports =
      board.exports ++ (exportCall? exporter board.notes route).toList := by
  cases answered : tokenPage? board.notes route with
  | none =>
    have framed := perform_of_unissued answered (Eq.refl board.notes) exporter now form
    exact congrArg (·.2.exports) framed
  | some page =>
    rw [perform_of_issued answered, exportCall?_of_issued answered, Option.toList_none,
      List.append_nil]
    rfl

theorem perform_table (exporter : Option Exporter) (board : Board) (now : Int) (route : Route)
    (form : Form) :
    TableChange now form board.notes (Board.perform exporter board now route form).2.notes
      route := by
  cases route with
  | index | addNote | filter => rfl
  | newNote => exact ⟨board.notes.nextId, row?_nextId _, row?_add ..⟩
  | note action id =>
    cases action with
    | view => rfl
    | edit | delete | paste =>
      change (board.prepare id _).2.notes = board.notes
      rw [prepare_eq]
      cases row? board.notes id <;> rfl
    | save =>
      change row? (board.save now id form).2.notes = _
      rcases save_cases board now id form with ⟨row, notes, found, table, equal⟩ | ⟨missing, equal⟩
      · rw [equal, table, found]
        rfl
      · rw [equal, missing]
        exact (Function.update_eq_self_iff.mpr missing.symm).symm
    | confirmDelete =>
      change row? (board.delete id).2.notes = _
      rcases delete_cases board id with ⟨_, notes, _, table, equal⟩ | ⟨missing, equal⟩
      · rw [equal, table]
      · rw [equal]
        exact (Function.update_eq_self_iff.mpr missing.symm).symm
    | confirmPaste =>
      change (Board.sendAway exporter board id).2.notes = board.notes
      cases exporter with
      | none => rfl
      | some publish =>
        rw [sendAway_eq]
        cases row? board.notes id <;> rfl

private theorem perform_failed {exporter : Option Exporter} {board : Board} {now : Int}
    {route : Route}
    {form : Form} {refusal : Refusal}
    (failed : (Board.perform exporter board now route form).1 = .error refusal) :
    (Board.perform exporter board now route form).2.notes = board.notes := by
  have table := perform_table exporter board now route form
  cases route with
  | index | addNote | filter => exact table
  | newNote => cases failed
  | note action id =>
    cases action with
    | view | edit | delete | paste | confirmPaste => exact table
    | save =>
      change (board.save now id form).1 = _ at failed
      change (board.save now id form).2.notes = _
      rcases save_cases board now id form with ⟨_, _, _, _, equal⟩ | ⟨_, equal⟩
      · rw [equal] at failed
        cases failed
      · rw [equal]
    | confirmDelete =>
      change (board.delete id).1 = _ at failed
      change (board.delete id).2.notes = _
      rcases delete_cases board id with ⟨_, _, _, _, equal⟩ | ⟨_, equal⟩
      · rw [equal] at failed
        cases failed
      · rw [equal]

/-- Carrying out a route has exactly its effects. A new note is added under a free id, a saved one
keeps its id and its first date, a deleted one is gone, and no other row changes. The exporter is
called once if it is there and the note is, and else never. A token is issued for the blank form
and for the three forms of a note that is there, and the page answered carries it. A failure
leaves the notes and the issuer as they were. -/
theorem perform_has_its_effects (exporter : Option Exporter) (board : Board) (now : Int)
    (route : Route) (form : Form) :
    Effects exporter board now route form (Board.perform exporter board now route form).1
      (Board.perform exporter board now route form).2 := by
  constructor
  case table => exact perform_table exporter board now route form
  case calls => exact perform_exports exporter board now route form
  case throttle => exact perform_throttle exporter board now route form
  case issued =>
    intro page answered
    rw [perform_of_issued answered]
    exact ⟨rfl, rfl, tokenFields_within_page answered _⟩
  case unissued =>
    intro unanswered
    exact issuer_of_unissued unanswered exporter now form
  case failed =>
    intro refusal failed
    refine ⟨perform_failed failed, ?_⟩
    cases answered : tokenPage? board.notes route with
    | some page =>
      rw [perform_of_issued answered] at failed
      cases failed
    | none => exact issuer_of_unissued answered exporter now form

end NoteBoard.Proofs.PerformEffects
