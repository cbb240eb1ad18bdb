/-! Path patterns: a fixed path, or a fixed start followed by one slot that takes the whole rest.
Matching looks at the case of letters and leaves nothing of the path over. -/

namespace NoteBoard

inductive Slot where
  | exact
  /-- One or more ASCII digits. -/
  | digits
  /-- One or more ASCII letters, digits and spaces. -/
  | filterText
  deriving DecidableEq, Repr

structure PathPattern where
  slot : Slot
  lead : String
  deriving DecidableEq, Repr

inductive Capture where
  | bare
  | digits (text : String)
  | filterText (text : String)
  deriving DecidableEq, Repr

def isFilterChar (c : Char) : Bool := c.isAlphanum || c == ' '

/-- The text of the slot, if the path has the start. -/
def PathPattern.slotText? (pattern : PathPattern) (path : String) : Option (List Char) :=
  pattern.lead.toList.isPrefixOf? path.toList

def Slot.capture? (slot : Slot) (text : List Char) : Option Capture :=
  match slot with
  | .exact => if text.isEmpty then some .bare else none
  | .digits =>
    if !text.isEmpty && text.all Char.isDigit then some (.digits (String.ofList text)) else none
  | .filterText =>
    if !text.isEmpty && text.all isFilterChar then some (.filterText (String.ofList text)) else none

def PathPattern.capture? (pattern : PathPattern) (path : String) : Option Capture :=
  (pattern.slotText? path).bind pattern.slot.capture?

end NoteBoard
