import NoteBoard.Text.Hex
import NoteBoard.Text.Split

/-! Texts of internet addresses: four octets with dots, and eight groups with colons of which one
run of zeros may be left out. -/

namespace NoteBoard.Ip

def octet? (text : List Char) : Option Nat :=
  if text.isEmpty || 3 < text.length || !text.all Char.isDigit then none
  else if text.head? = some '0' && 1 < text.length then none
  else if Text.digitsValue text ≤ 255 then some (Text.digitsValue text) else none

def quad? (text : List Char) : Option (List Nat) := do
  let octets ← (Text.split '.' text).mapM octet?
  if octets.length = 4 then some octets else none

def group? (text : List Char) : Option Nat :=
  if !text.isEmpty && text.length ≤ 4 && text.all Text.isHexDigit then some (Text.hexValue text) else none

def quadGroups? (text : List Char) : Option (List Nat) :=
  match quad? text with
  | some [a, b, c, d] => some [256 * a + b, 256 * c + d]
  | _ => none

/-- Groups of which the last two may be written as four octets. -/
def lastGroups? : List (List Char) → Option (List Nat)
  | [] => some []
  | [last] => ((group? last).map ([·])).or (quadGroups? last)
  | first :: rest => do
    let group ← group? first
    let groups ← lastGroups? rest
    return group :: groups

/-- The parts between single colons; nothing has no parts. -/
def colonParts (text : List Char) : List (List Char) :=
  if text.isEmpty then [] else Text.split ':' text

/-- The eight groups of an address. A double colon stands for one or more groups of zeros. -/
def groups? (text : List Char) : Option (List Nat) :=
  match Text.cut? "::".toList text with
  | none => (lastGroups? (colonParts text)).filter (·.length = 8)
  | some (left, right) => do
    let left ← (colonParts left).mapM group?
    let right ← lastGroups? (colonParts right)
    if left.length + right.length ≤ 7 then
      some (left ++ List.replicate (8 - left.length - right.length) 0 ++ right)
    else none

/-- The longest run of zero groups: its start and size, the first of several. -/
def longestZeros (groups : List Nat) : Nat × Nat :=
  let runAt (i : Nat) := ((groups.drop i).takeWhile (· == 0)).length
  (List.range groups.length).foldl (fun best i => if best.2 < runAt i then (i, runAt i) else best)
    (0, 0)

def hexText (group : Nat) : List Char := Nat.toDigits 16 group

/-- The shortest text: lower case, no leading zeros, and the longest run of two or more zero groups
left out. -/
def renderGroups (groups : List Nat) : List Char :=
  let (start, size) := longestZeros groups
  let join (part : List Nat) := [':'].intercalate (part.map hexText)
  if size < 2 then join groups
  else join (groups.take start) ++ "::".toList ++ join (groups.drop (start + size))

def renderQuad (address : Nat) : List Char :=
  ['.'].intercalate <| [24, 16, 8, 0].map fun shift =>
    (toString (address / Nat.pow 2 shift % 256)).toList

end NoteBoard.Ip
