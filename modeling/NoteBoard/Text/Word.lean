import NoteBoard.Text.WordTable

/-! Word characters: ASCII letters, digits and the underscore, and those of the table. -/

namespace NoteBoard.Text

def isWord (c : Char) : Bool :=
  if c.toNat < 0x80 then c.isAlphanum || c == '_' else wordRanges.covers c

end NoteBoard.Text
