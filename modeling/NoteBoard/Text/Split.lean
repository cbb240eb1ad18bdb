/-! Cutting lists at separators and at marks. -/

namespace NoteBoard.Text

variable {α : Type} [DecidableEq α]

/-- The stretches between the separators, one more than there are separators. -/
def split (separator : α) : List α → List (List α)
  | [] => [[]]
  | first :: rest =>
    if first = separator then [] :: split separator rest
    else match split separator rest with
      | part :: parts => (first :: part) :: parts
      | [] => [[first]]

/-- What is before and after the first occurrence of a mark. -/
def cut? (mark : List α) : List α → Option (List α × List α)
  | [] => if mark.isEmpty then some ([], []) else none
  | first :: rest =>
    match mark.isPrefixOf? (first :: rest) with
    | some after => some ([], after)
    | none => (cut? mark rest).map fun found => (first :: found.1, found.2)

end NoteBoard.Text
