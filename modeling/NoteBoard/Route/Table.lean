import NoteBoard.Route.Basic
import NoteBoard.Route.Pattern
import NoteBoard.Text.Decimal

/-! The ordered table of routes. The first entry whose pattern takes the path decides, also when
it then refuses what it captured. -/

namespace NoteBoard

inductive RouteError where
  | notFound (path : String)
  | invalidId (digits : String)
  deriving DecidableEq, Repr

def RouteError.message : RouteError → String
  | .notFound path => "no route matches " ++ path
  | .invalidId digits => "invalid note id: " ++ digits

structure RouteEntry where
  pattern : PathPattern
  resolve : String → Except RouteError Route

abbrev RouteTable := List RouteEntry

def Capture.text : Capture → String
  | .bare => ""
  | .digits text => text
  | .filterText text => text

def RouteEntry.find? (entry : RouteEntry) (path : String) : Option (Except RouteError Route) :=
  (entry.pattern.capture? path).map fun capture => entry.resolve capture.text

def RouteTable.find (table : RouteTable) (path : String) : Except RouteError Route :=
  (table.findSome? (·.find? path)).getD (.error (.notFound path))

/-- Digits beyond the largest id are refused, never wrapped. -/
def noteId (digits : String) : Except RouteError Int :=
  let value : Int := Text.digitsValue digits.toList
  if value ≤ Note.largestId then .ok value else .error (.invalidId digits)

def RouteEntry.fixed (path : String) (route : Route) : RouteEntry where
  pattern := ⟨.exact, path⟩
  resolve _ := .ok route

def RouteEntry.note (lead : String) (action : NoteAction) : RouteEntry where
  pattern := ⟨.digits, lead⟩
  resolve digits := (noteId digits).map (.note action)

def RouteEntry.filter (lead : String) (field : SearchField) : RouteEntry where
  pattern := ⟨.filterText, lead⟩
  resolve needle := .ok (.filter field needle)

def NoteAction.lead : NoteAction → String
  | .view => "/Note/"
  | .edit => "/EditNote/"
  | .delete => "/DeleteNote/"
  | .paste => "/PasteBinNote/"
  | .save => "/SaveNote/"
  | .confirmDelete => "/ConfirmDeleteNote/"
  | .confirmPaste => "/ConfirmPasteBinNote/"

def SearchField.lead : SearchField → String
  | .title => "/TitleFilter/"
  | .text => "/TextFilter/"
  | .both => "/BothFilter/"

def NoteAction.all : List NoteAction :=
  [.view, .edit, .delete, .paste, .save, .confirmDelete, .confirmPaste]

def SearchField.all : List SearchField := [.title, .text, .both]

def RouteTable.board : RouteTable :=
  [.fixed "/" .index, .fixed "/AddNote/" .addNote, .fixed "/NewNote/" .newNote]
    ++ NoteAction.all.map (fun action => .note action.lead action)
    ++ SearchField.all.map (fun field => .filter field.lead field)

end NoteBoard
