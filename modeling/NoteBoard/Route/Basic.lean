import NoteBoard.Note.Basic

/-! The routes of the board. -/

namespace NoteBoard

/-- What a route does with the one note it names. -/
inductive NoteAction where
  | view
  | edit
  | delete
  | paste
  | save
  | confirmDelete
  | confirmPaste
  deriving DecidableEq, Repr

inductive Route where
  | index
  | addNote
  | newNote
  | note (action : NoteAction) (id : Int)
  | filter (field : SearchField) (needle : String)
  deriving DecidableEq, Repr

/-- Actions that change the note or send it away. -/
def NoteAction.mutates : NoteAction → Bool
  | .save | .confirmDelete | .confirmPaste => true
  | .view | .edit | .delete | .paste => false

/-- Mutating routes need a valid form token. -/
def Route.mutates : Route → Bool
  | .newNote => true
  | .note action _ => action.mutates
  | .index | .addNote | .filter .. => false

def NoteAction.name : NoteAction → String
  | .view => "view_note"
  | .edit => "edit_note"
  | .delete => "delete_note"
  | .paste => "paste_bin_note"
  | .save => "save_note"
  | .confirmDelete => "confirm_delete_note"
  | .confirmPaste => "confirm_paste_bin_note"

def SearchField.routeName : SearchField → String
  | .title => "title_filter"
  | .text => "text_filter"
  | .both => "both_filter"

def Route.name : Route → String
  | .index => "index"
  | .addNote => "add_note"
  | .newNote => "new_note"
  | .note action _ => action.name
  | .filter field _ => field.routeName

end NoteBoard
