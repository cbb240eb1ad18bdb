import NoteBoard.Regex.Basic
import NoteBoard.Text.Blank

/-! What counts as a link in free text: a URL with a scheme, a mail link, a mail address, or a bare
domain with an optional port and path. A link never ends in punctuation that closes a sentence. -/

namespace NoteBoard.Link

open Regex

def isSchemeChar (c : Char) : Bool := c.isAlphanum || c == '+' || c == '.' || c == '-'

def isMailboxChar (c : Char) : Bool :=
  c.isAlphanum || c == '.' || c == '_' || c == '%' || c == '+' || c == '-'

def isLabelChar (c : Char) : Bool := c.isAlphanum || c == '-'

/-- White space, angle brackets and quotes end every link. -/
def isSeparator (c : Char) : Bool :=
  Text.isBlank c || c == '<' || c == '>' || c == '"' || c == '\''

def isInner (c : Char) : Bool := !isSeparator c

def isClosing (c : Char) : Bool := ".,;:!?)]\x7d".toList.contains c

def isLast (c : Char) : Bool := isInner c && !isClosing c

/-- Letters that fold to a letter of the English alphabet when case is ignored; the long s and the
Kelvin sign are the two outside ASCII. -/
def foldsTo (letter c : Char) : Bool :=
  c.toLower == letter || (letter == 's' && c == '\u017F') || (letter == 'k' && c == '\u212A')

def isFoldedLetter (c : Char) : Bool := c.isAlpha || c == '\u017F' || c == '\u212A'

def anyCase (text : String) : Regex :=
  text.toList.foldr (fun letter rest => seq (one (foldsTo letter)) rest) empty

/-- Anything but separators, up to a last character that is no closing punctuation. -/
def stretch : Regex := seq (many isInner) (one isLast)

def schemed : Regex :=
  seq (one Char.isAlpha) (seq (many isSchemeChar) (seq (literal "://") stretch))

def mailto : Regex := seq (anyCase "mailto") (seq (char ':') stretch)

def label : Regex :=
  seq (one Char.isAlphanum)
    (seq (opt (seq (many isLabelChar) (one Char.isAlphanum))) (char '.'))

def labels : Regex := seq label (star label)

def email : Regex :=
  seq (plus isMailboxChar)
    (seq (char '@')
      (seq labels
        (seq (one Char.isAlpha) (seq (plus Char.isAlpha) edge))))

def topLevel : Regex :=
  choice
    (["com", "org", "net", "edu", "gov", "mil", "int", "info", "biz", "name", "pro", "io", "dev",
      "app", "xyz", "online", "site", "tech"].map anyCase)
    (seq (one isFoldedLetter) (one isFoldedLetter))

def port : Regex := seq (char ':') (seq (one Char.isDigit) (upTo Char.isDigit 4))

def path : Regex := seq (char '/') (opt stretch)

def bare : Regex :=
  seq edge (seq labels (seq topLevel (seq edge (seq (opt port) (opt path)))))

/-- A mail address goes before a bare domain, so that its mailbox stays inside the link. -/
def pattern : Regex := alt schemed (alt mailto (alt email bare))

def spans (text : List Char) : List Span := pattern.spans text

def scan (text : String) : List String :=
  (spans text.toList).map fun span => String.ofList span.text

end NoteBoard.Link
