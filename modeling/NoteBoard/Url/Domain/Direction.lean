import NoteBoard.Text.Ranges
import NoteBoard.Url.Domain.ClassTable

/-! Writing directions. Where any label of a name has letters that run from right to left, every
label must run in one direction, so that the name cannot be read in two ways. -/

namespace NoteBoard.Domain

inductive Direction where
  | left
  | right
  | arabicNumber
  | europeanNumber
  | neutral
  | mark
  deriving DecidableEq, Repr

def asciiDirection (c : Char) : Direction :=
  if c.isAlpha then .left else if c.isDigit then .europeanNumber else .neutral

def isNonspacing (c : Char) : Bool := nonspacingRanges.covers c

def isMark (c : Char) : Bool := isNonspacing c || spacingMarkRanges.covers c

def direction (c : Char) : Direction :=
  if c.toNat < 0x80 then asciiDirection c
  else if isNonspacing c && !plainMarkRanges.covers c then .mark
  else if rightToLeftRanges.covers c then .right
  else if arabicNumberRanges.covers c then .arabicNumber
  else if europeanNumberRanges.covers c then .europeanNumber
  else if neutralRanges.covers c then .neutral
  else .left

def isBackward (c : Char) : Bool := direction c = .right || direction c = .arabicNumber

/-- The directions of a label without the marks at its end. -/
def trimmedDirections (label : List Char) : List Direction :=
  ((label.map direction).reverse.dropWhile (· = .mark)).reverse

/-- A label from left to right has nothing backward in it and ends in a letter or number. -/
def runsForward (directions : List Direction) : Bool :=
  directions.all (fun d => d ≠ .right && d ≠ .arabicNumber)
    && (directions.getLast? = some .left || directions.getLast? = some .europeanNumber)

/-- A label from right to left has no letter from left to right, ends in a letter or number, and has
numbers of one kind only. -/
def runsBackward (directions : List Direction) : Bool :=
  directions.all (· ≠ .left)
    && directions.getLast? ≠ some .neutral
    && !(directions.contains .arabicNumber && directions.contains .europeanNumber)

/-- The first letter decides in which direction a label runs. -/
def runsOneWay (label : List Char) : Bool :=
  match label.head?.map direction with
  | none => true
  | some .left => runsForward (trimmedDirections label)
  | some .right => runsBackward (trimmedDirections label)
  | some _ => false

def areReadable (labels : List (List Char)) : Bool :=
  !labels.any (·.any isBackward) || labels.all runsOneWay

end NoteBoard.Domain
