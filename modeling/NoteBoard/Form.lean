import NoteBoard.Text.Decimal
import NoteBoard.Text.Percent
import NoteBoard.Text.Split
import NoteBoard.Token.Issuer

/-! Form fields. A form is written as pairs joined by `&`, a name and its value joined by `=`, a
space as `+` and all but a few ASCII characters in percent form. Fields come from the body of a
request first and from its query second, and the first field of a name counts. -/

namespace NoteBoard

structure Form where
  pairs : List (String × String)
  deriving DecidableEq, Repr

namespace Form

def ampersand : UInt8 := 0x26
def equals : UInt8 := 0x3D
def plus : UInt8 := 0x2B
def space : UInt8 := 0x20

def decode (bytes : List UInt8) : String :=
  String.ofList <| Utf8.decodeLossy <| Percent.decode <|
    bytes.map fun b => if b = plus then space else b

/-- The first `=` ends the name; without one the value is empty. -/
def decodePair (bytes : List UInt8) : String × String :=
  (decode (bytes.takeWhile (· ≠ equals)), decode ((bytes.dropWhile (· ≠ equals)).drop 1))

/-- The pairs of one source; empty stretches are none. -/
def decodePairs (bytes : List UInt8) : List (String × String) :=
  ((Text.split ampersand bytes).filter (! ·.isEmpty)).map decodePair

def parse (query : Option String) (body : List UInt8) : Form :=
  ⟨decodePairs body ++ decodePairs (Utf8.encode (query.getD "").toList)⟩

def get? (form : Form) (name : String) : Option String := form.pairs.lookup name

def title (form : Form) : String := (form.get? "title").getD ""

def text (form : Form) : String := (form.get? "text").getD ""

/-- The submitted token, if both fields are there and the id is a number of 64 bits. -/
def token? (form : Form) : Option Token := do
  let id ← form.get? Token.idField
  let id ← Text.unsigned? Token.largestId id.toList
  let secret ← form.get? Token.secretField
  return ⟨id, secret⟩

def isKept (b : UInt8) : Bool :=
  let c := Char.ofNat b.toNat
  c.isAlphanum || c == '*' || c == '-' || c == '.' || c == '_'

def encode (text : String) : List UInt8 :=
  (Utf8.encode text.toList).flatMap fun b =>
    if b = space then [plus] else if isKept b then [b] else Percent.encodeByte b

def encodePair (pair : String × String) : List UInt8 := encode pair.1 ++ equals :: encode pair.2

def encodePairs (pairs : List (String × String)) : List UInt8 :=
  [ampersand].intercalate (pairs.map encodePair)

end Form

end NoteBoard
