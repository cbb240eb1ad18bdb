import NoteBoard.Text.Split
import NoteBoard.Url.Domain.Bootstring
import NoteBoard.Url.Domain.Joiner
import NoteBoard.Url.Domain.Mapping

/-! Domain names in their ASCII form. A name is mapped and composed, its labels are checked, and
each label with characters outside ASCII gets its name in ASCII behind a marker. -/

namespace NoteBoard.Domain

/-- The ASCII characters no domain name has. -/
def isForbidden (c : Char) : Bool :=
  c.toNat ≤ 0x20 || c.toNat == 0x7F || "%#/:<>?@[\\]^|".toList.contains c

def marker : List Char := "xn--".toList

/-- Labels and names of labels beyond these lengths are not looked at. -/
def longestLabel : Nat := 1000
def longestCode : Nat := 2000

structure Label where
  chars : List Char
  ascii : List Char
  deriving DecidableEq, Repr

/-- What a label with characters outside ASCII must keep to. -/
def isWellFormed (label : List Char) : Bool :=
  label.length ≤ longestLabel && !(label.head?.map isMark).getD false && joinersFit [] label

def isSettled (label : List Char) : Bool :=
  label.all (fun c => mapChar? c = some [c]) && compose label = label

/-- A label that already is a name in ASCII must name a label that would get this name. -/
def namedLabel? (code : List Char) : Option Label := do
  let label ← if code.length ≤ longestCode then Bootstring.decode? code else none
  if !label.all isAscii && isSettled label && isWellFormed label then
    some ⟨label, marker ++ code⟩
  else none

def label? (chars : List Char) : Option Label :=
  match marker.isPrefixOf? chars with
  | some code => if code.all isAscii then namedLabel? code else none
  | none =>
    if chars.all isAscii then some ⟨chars, chars⟩
    else if isWellFormed chars then some ⟨chars, marker ++ Bootstring.encode chars⟩
    else none

def wideForm? (name : List Char) : Option (List Char) := do
  let name := compose (← map? name)
  if name.any isForbidden then none
  else
    let labels ← (Text.split '.' name).mapM label?
    if areReadable (labels.map Label.chars) then
      some (['.'].intercalate (labels.map Label.ascii))
    else none

def isPlain (name : List Char) : Bool :=
  name.all isAscii && !(Text.split '.' (name.map Char.toLower)).any (marker.isPrefixOf ·)

def asciiForm? (name : List Char) : Option (List Char) :=
  if isPlain name then
    if name.any isForbidden then none else some (name.map Char.toLower)
  else wideForm? name

end NoteBoard.Domain
