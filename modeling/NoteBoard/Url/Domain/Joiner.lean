import NoteBoard.Url.Domain.Composition
import NoteBoard.Url.Domain.Direction

/-! The two joiners, characters without a glyph that only change how their neighbours join. They are
allowed where they make a difference: after a mark that takes the vowel off a letter, and the one
that separates also between letters that would join. -/

namespace NoteBoard.Domain

def separator : Char := '\u200C'
def joiner : Char := '\u200D'

/-- The place of marks that take the vowel off a letter. -/
def vowelKiller : Nat := 9

def joins (ranges : Text.Ranges) (neighbours : List Char) : Bool :=
  match neighbours.dropWhile isNonspacing with
  | c :: _ => ranges.covers c
  | [] => false

/-- Checks the joiners after the characters in `before`, the last of which comes first. -/
def joinersFit (before : List Char) : List Char → Bool
  | [] => true
  | c :: rest =>
    (if c = separator || c = joiner then
      (before.head?.map fun last => place last == vowelKiller).getD false
        || c = separator && joins joinsNextRanges before && joins joinsPreviousRanges rest
    else true) && joinersFit (c :: before) rest

end NoteBoard.Domain
