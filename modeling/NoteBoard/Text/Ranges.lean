/-! Sets of characters given as ranges of code points. The tables of the library hold only
characters outside ASCII; the ASCII part of a class is written out where the class is defined. -/

namespace NoteBoard.Text

abbrev Ranges := List (Nat × Nat)

def Ranges.covers (ranges : Ranges) (c : Char) : Bool :=
  ranges.any fun range => range.1 ≤ c.toNat && c.toNat ≤ range.2

end NoteBoard.Text
