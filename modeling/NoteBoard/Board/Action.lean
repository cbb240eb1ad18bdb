import NoteBoard.Board.Basic
import NoteBoard.Form
import NoteBoard.Page.Basic
import NoteBoard.Refusal

/-! What the routes do with the board. A step that can fail comes before the first one that changes
something, so a request that is refused has changed nothing. -/

namespace NoteBoard.Board

def withToken (board : Board) (page : Token → Html.Document) : Response × Board :=
  let (token, board) := board.issue
  (.page (page token), board)

/-- A page about a note with a fresh token; no token is issued for a note that is not there. -/
def prepare (board : Board) (id : Int) (page : Note → Token → Html.Document) :
    Except Refusal Response × Board :=
  match board.notes.get id with
  | .error error => (.error (.ofStoreError error), board)
  | .ok note =>
    let (response, board) := board.withToken (page note)
    (.ok response, board)

def view (board : Board) (id : Int) : Except Refusal Response :=
  match board.notes.get id with
  | .error error => .error (.ofStoreError error)
  | .ok note => .ok (.page (Page.note note))

def addNote (board : Board) (now : Int) (form : Form) : Board :=
  { board with notes := (board.notes.add now form.title form.text).2 }

/-- Saving what is there already does not touch the note. -/
def save (board : Board) (now : Int) (id : Int) (form : Form) : Except Refusal Response × Board :=
  match board.notes.get id with
  | .error error => (.error (.ofStoreError error), board)
  | .ok note =>
    let response := Response.found (NoteAction.view.path id)
    if note.differs form.title form.text then
      match board.notes.update now id form.title form.text with
      | .error error => (.error (.ofStoreError error), board)
      | .ok notes => (.ok response, { board with notes })
    else (.ok response, board)

def delete (board : Board) (id : Int) : Except Refusal Response × Board :=
  match board.notes.delete id with
  | .error error => (.error (.ofStoreError error), board)
  | .ok notes => (.ok (.found "/"), { board with notes })

def exportTitle (note : Note) : String := note.title ++ " (ID:" ++ toString note.id ++ ")"

def sendAway (exporter : Option Exporter) (board : Board) (id : Int) :
    Except Refusal Response × Board :=
  match exporter with
  | none => (.error (.ofExportError .disabled), board)
  | some publish =>
    match board.notes.get id with
    | .error error => (.error (.ofStoreError error), board)
    | .ok note =>
      let board := { board with exports := board.exports ++ [(exportTitle note, note.text)] }
      match publish (exportTitle note) note.text with
      | .error error => (.error (.ofExportError error), board)
      | .ok reference => (.ok (.found reference), board)

def listing (board : Board) (field : SearchField) (needle : String) : Except Refusal Response :=
  match board.notes.search field needle with
  | .error error => .error (.ofStoreError error)
  | .ok notes => .ok (.page (Page.index notes true))

def perform (exporter : Option Exporter) (board : Board) (now : Int) (route : Route)
    (form : Form) : Except Refusal Response × Board :=
  match route with
  | .index => (.ok (.page (Page.index board.notes.all false)), board)
  | .addNote =>
    let (response, board) := board.withToken Page.add
    (.ok response, board)
  | .newNote => (.ok (.found "/"), board.addNote now form)
  | .note .view id => (board.view id, board)
  | .note .edit id => board.prepare id Page.edit
  | .note .delete id => board.prepare id Page.delete
  | .note .paste id => board.prepare id Page.paste
  | .note .save id => board.save now id form
  | .note .confirmDelete id => board.delete id
  | .note .confirmPaste id => sendAway exporter board id
  | .filter field needle => (board.listing field needle, board)

end NoteBoard.Board
