/-! Notes and the fields a listing can search. -/

namespace NoteBoard

/-- A note. Its id is a signed number of 64 bits, its times are seconds since the start of 1970. -/
structure Note where
  id : Int
  title : String
  text : String
  added : Int
  changed : Int
  deriving DecidableEq, Repr

def Note.largestId : Int := 0x7FFFFFFFFFFFFFFF

def Note.differs (note : Note) (title text : String) : Bool :=
  note.title != title || note.text != text

inductive SearchField where
  | title
  | text
  | both
  deriving DecidableEq, Repr

end NoteBoard
