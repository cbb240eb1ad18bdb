import NoteBoard.Html.Escape

/-! A document as a list of fragments. What is fixed, what is text to be escaped and what is
finished markup is told apart here, so a page can be compared with another one field by field. -/

namespace NoteBoard.Html

inductive Fragment where
  | fixed (template : String)
  /-- Text of a user, escaped when written. -/
  | escaped (text : String)
  /-- Markup that is written as it is. -/
  | ready (markup : String)
  deriving DecidableEq, Repr

abbrev Document := List Fragment

def Fragment.render : Fragment → String
  | .fixed template => template
  | .escaped text => escape text
  | .ready markup => markup

def Document.render (document : Document) : String :=
  String.join (document.map Fragment.render)

end NoteBoard.Html
