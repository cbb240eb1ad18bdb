/-! What separates the parts of a configuration document: spaces, tabs, line breaks and comments.
Line breaks are brought to one form before anything else is read. -/

namespace NoteBoard.Toml

/-- Reads a part of a text from its start: what was read, and what follows. -/
abbrev Reader (α : Type) := List Char → Option (α × List Char)

/-- Turns every line break into a single newline. A carriage return alone is not allowed
anywhere. -/
def unifyBreaks? : List Char → Option (List Char)
  | [] => some []
  | '\r' :: rest => if rest.head? = some '\n' then unifyBreaks? rest else none
  | c :: rest => (unifyBreaks? rest).map (c :: ·)

def isSpace (c : Char) : Bool := c == ' ' || c == '\t'

def skipSpace (text : List Char) : List Char := text.dropWhile isSpace

/-- No control character but the tab. -/
def isVisible (c : Char) : Bool := c == '\t' || (0x20 ≤ c.toNat && c.toNat != 0x7F)

def skipComment : List Char → List Char
  | '#' :: rest => rest.dropWhile isVisible
  | text => text

/-- The rest after the end of a line, which may have a comment before it. -/
def lineEnd? (text : List Char) : Option (List Char) :=
  match skipComment (skipSpace text) with
  | [] => some []
  | '\n' :: rest => some rest
  | _ => none

/-- Skips spaces, line breaks and comments. A comment ends with its line. -/
def skipLines? (inComment : Bool) : List Char → Option (List Char)
  | [] => if inComment then none else some []
  | c :: rest =>
    if c = '\n' then skipLines? false rest
    else if inComment then (if isVisible c then skipLines? true rest else none)
    else if c = '#' then skipLines? true rest
    else if isSpace c then skipLines? false rest
    else some (c :: rest)

end NoteBoard.Toml
