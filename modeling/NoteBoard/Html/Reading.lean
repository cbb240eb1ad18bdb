import NoteBoard.Html.Escape
import NoteBoard.Text.Split

/-! Reading a page back: the stretch between two marks, and the text of an input or a textarea
as a browser has it. -/

namespace NoteBoard.Html

def between? (opening closing : String) (page : List Char) : Option (List Char) := do
  let found ← Text.cut? opening.toList page
  let found ← Text.cut? closing.toList found.2
  return found.1

def attribute? (opening : String) (page : List Char) : Option (List Char) :=
  (between? opening "\"" page).map unescapeChars

/-- A line feed directly after the start tag is not part of a textarea's text. A carriage return,
which HTML turns into a line feed before it looks for tags, is kept here. -/
def dropFirstNewline : List Char → List Char
  | '\n' :: rest => rest
  | text => text

def textareaText (content : List Char) : List Char := unescapeChars (dropFirstNewline content)

end NoteBoard.Html
