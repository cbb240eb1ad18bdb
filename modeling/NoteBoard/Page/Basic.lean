import NoteBoard.Link.Annotate
import NoteBoard.Note.Calendar
import NoteBoard.Page.Layout
import NoteBoard.Route.Table
import NoteBoard.Token.Issuer

/-! The pages of the board. Titles, secrets and the text inside a form are escaped; the text of a
note that is shown is written with its links as anchors and is not escaped. -/

namespace NoteBoard

/-- The path of what a route does with a note. -/
def NoteAction.path (action : NoteAction) (id : Int) : String := action.lead ++ toString id

namespace Page

open Html

def row (note : Note) : Document := [
  .fixed "                <tr><td><a href=\"",
  .fixed (NoteAction.view.path note.id),
  .fixed "\">",
  .escaped note.title,
  .fixed "</a></td><td>",
  .ready (Link.annotate note.text),
  .fixed "</td><td>",
  .fixed (Calendar.render note.added),
  .fixed "</td><td>",
  .fixed (Calendar.render note.changed),
  .fixed "</td></tr>\n"]

def index (notes : List Note) (filtered : Bool) : Document :=
  layout "Share Notes" <|
    [.fixed "<h1>Share Notes</h1>
        <p><a href=\"/AddNote/\" class=\"button\">New note</a></p>
        ",
      .fixed (if filtered then
        "<p class=\"filtered\">Filtered view. <a href=\"/\">Show all notes</a></p>" else ""),
      .fixed "\n        ",
      .fixed (if notes.isEmpty then "<p class=\"empty\">No notes yet.</p>" else ""),
      .fixed "
        <table>
            <thead><tr><th>Title</th><th>Text</th><th>Added</th><th>Changed</th></tr></thead>
            <tbody>
"]
    ++ notes.flatMap row
    ++ [.fixed "            </tbody>
        </table>"]

def tokenFields (token : Token) : Document := [
  .fixed "<input type=\"hidden\" name=\"",
  .fixed Token.idField,
  .fixed "\" value=\"",
  .fixed (toString token.id),
  .fixed "\">
            <input type=\"hidden\" name=\"",
  .fixed Token.secretField,
  .fixed "\" value=\"",
  .escaped token.secret,
  .fixed "\">"]

def noteFields (title text : String) (token : Token) : Document :=
  [.fixed "<label for=\"title\">Title</label>
            <input type=\"text\" id=\"title\" name=\"title\" value=\"",
    .escaped title,
    .fixed "\">
            <label for=\"text\">Text</label>
            <textarea id=\"text\" name=\"text\" rows=\"10\">",
    .escaped text,
    .fixed "</textarea>
            "]
    ++ tokenFields token

def add (token : Token) : Document :=
  layout "New note" <|
    [.fixed "<h1>New note</h1>
        <form action=\"/NewNote/\" method=\"post\">
            "]
    ++ noteFields "" "" token
    ++ [.fixed "
            <button type=\"submit\">Save</button>
        </form>
        <a href=\"/\">Cancel</a>"]

def note (note : Note) : Document :=
  layout note.title [
    .fixed "<h1>",
    .escaped note.title,
    .fixed "</h1>
        <div class=\"note-text\">",
    .ready (Link.annotate note.text),
    .fixed "</div>
        <p class=\"dates\">Added ",
    .fixed (Calendar.render note.added),
    .fixed ", changed ",
    .fixed (Calendar.render note.changed),
    .fixed "</p>
        <p>
            <a href=\"",
    .fixed (NoteAction.edit.path note.id),
    .fixed "\">Edit</a>
            <a href=\"",
    .fixed (NoteAction.delete.path note.id),
    .fixed "\">Delete</a>
            <a href=\"",
    .fixed (NoteAction.paste.path note.id),
    .fixed "\">Export to paste service</a>
            <a href=\"/\">Back</a>
        </p>"]

def edit (note : Note) (token : Token) : Document :=
  layout "Edit note" <|
    [.fixed "<h1>Edit note</h1>
        <form action=\"",
      .fixed (NoteAction.save.path note.id),
      .fixed "\" method=\"post\">
            "]
    ++ noteFields note.title note.text token
    ++ [.fixed "
            <button type=\"submit\">Save</button>
        </form>
        <a href=\"",
      .fixed (NoteAction.view.path note.id),
      .fixed "\">Cancel</a>"]

def confirm (heading : String) (question : Document) (action : NoteAction) (button : String)
    (note : Note) (token : Token) : Document :=
  layout heading <|
    [.fixed "<h1>", .fixed heading, .fixed "</h1>
        <p>"]
    ++ question
    ++ [.fixed "</p>
        <div class=\"note-text\">",
      .ready (Link.annotate note.text),
      .fixed "</div>
        <form action=\"",
      .fixed (action.path note.id),
      .fixed "\" method=\"post\">
            "]
    ++ tokenFields token
    ++ [.fixed "
            <button type=\"submit\">",
      .fixed button,
      .fixed "</button>
        </form>
        <a href=\"",
      .fixed (NoteAction.view.path note.id),
      .fixed "\">Cancel</a>"]

def delete (note : Note) (token : Token) : Document :=
  confirm "Delete note" [.fixed "Delete \u201C", .escaped note.title, .fixed "\u201D?"]
    .confirmDelete "Delete" note token

def paste (note : Note) (token : Token) : Document :=
  confirm "Export note"
    [.fixed "Export \u201C", .escaped note.title, .fixed "\u201D to the public paste service?"]
    .confirmPaste "Export" note token

end Page

end NoteBoard
