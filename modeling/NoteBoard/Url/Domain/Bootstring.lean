/-! Names in ASCII for labels with other characters. The ASCII characters of the label come first;
after a hyphen, the others follow in ascending order, each as the distance from the one before,
counted over all places where it could stand. Distances are written in 36 digits with thresholds
that adapt to their size. -/

namespace NoteBoard.Bootstring

def base : Nat := 36
def lowest : Nat := 1
def highest : Nat := 26
def firstBias : Nat := 72
def firstPoint : Nat := 0x80

/-- Numbers are kept to 32 bits. -/
def bounded? (n : Nat) : Option Nat := if n < 0x100000000 then some n else none

/-- A digit at this position that is below the threshold is the last one of its number. -/
def threshold (position bias : Nat) : Nat :=
  if position ≤ bias then lowest
  else if bias + highest ≤ position then highest
  else position - bias

def biasOf (steps size : Nat) : Nat :=
  if (base - lowest) * highest / 2 < size then
    biasOf (steps + 1) (size / (base - lowest))
  else base * steps + base * size / (size + 38)
termination_by size
decreasing_by exact Nat.div_lt_self (by omega) (by decide)

/-- The bias after a distance has been handled; the first one is damped. -/
def adapt (distance count : Nat) (isFirst : Bool) : Nat :=
  let size := distance / (if isFirst then 700 else 2)
  biasOf 0 (size + size / count)

def digitChar (digit : Nat) : Char :=
  Char.ofNat (if digit < 26 then 'a'.toNat + digit else '0'.toNat + (digit - 26))

def digit? (c : Char) : Option Nat :=
  if c.isAlpha then some (c.toLower.toNat - 'a'.toNat)
  else if c.isDigit then some (c.toNat - '0'.toNat + 26)
  else none

/-! Reading. -/

/-- Reads one distance; `value` and `weight` come from the digits before. -/
def distance? (bias position value weight : Nat) : List Char → Option (Nat × List Char)
  | [] => none
  | c :: rest => do
    let digit ← digit? c
    let value ← bounded? (value + digit * weight)
    let limit := threshold position bias
    if digit < limit then return (value, rest)
    else distance? bias (position + base) value (← bounded? (weight * (base - limit))) rest

/-- What reading has come to: the label so far, the last character put in and the place after
it. -/
structure Progress where
  label : List Char
  point : Nat
  index : Nat
  bias : Nat

/-- Puts in the character at a distance from the last one. -/
def Progress.insert? (progress : Progress) (distance : Nat) : Option Progress := do
  let places := progress.label.length + 1
  let index ← bounded? (progress.index + distance)
  let point := progress.point + index / places
  if point.isValidChar then
    let label := progress.label.insertIdx (index % places) (Char.ofNat point)
    return ⟨label, point, index % places + 1, adapt distance places (progress.index = 0)⟩
  else none

/-- Reads all distances, at most so many. -/
def read? : Nat → Progress → List Char → Option (List Char)
  | _, progress, [] => some progress.label
  | 0, _, _ :: _ => none
  | limit + 1, progress, text => do
    let (distance, rest) ← distance? progress.bias base 0 1 text
    read? limit (← progress.insert? distance) rest

def splitCode (code : List Char) : List Char × List Char :=
  let distances := (code.reverse.takeWhile (· ≠ '-')).reverse
  (code.take (code.length - distances.length - 1), distances)

def decode? (code : List Char) : Option (List Char) :=
  let (plain, distances) := splitCode code
  read? distances.length ⟨plain, firstPoint, 0, firstBias⟩ distances

/-! Writing. -/

theorem threshold_pos (position bias : Nat) : 1 ≤ threshold position bias := by
  unfold threshold lowest highest
  split
  · omega
  · split <;> omega

def digits (bias position distance : Nat) : List Char :=
  let limit := threshold position bias
  if distance < limit then [digitChar distance]
  else
    digitChar (limit + (distance - limit) % (base - limit))
      :: digits bias (position + base) ((distance - limit) / (base - limit))
termination_by distance
decreasing_by
  have := threshold_pos position bias
  exact Nat.lt_of_le_of_lt (Nat.div_le_self _ _) (by omega)

/-- What writing has come to: the characters written, the distance since the last one, and how many
characters of the label are done. -/
structure Draft where
  written : List Char
  distance : Nat
  bias : Nat
  done : Nat

/-- Passes a character of the label while those with this code point are written. -/
def Draft.pass (plain point : Nat) (draft : Draft) (c : Char) : Draft :=
  if c.toNat < point then { draft with distance := draft.distance + 1 }
  else if c.toNat = point then
    ⟨draft.written ++ digits draft.bias base draft.distance, 0,
      adapt draft.distance (draft.done + 1) (draft.done = plain), draft.done + 1⟩
  else draft

/-- Writes the characters of the label by ascending code points, from `next` on. -/
def write (label : List Char) (plain : Nat) : Nat → Draft → List Nat → List Char
  | _, draft, [] => draft.written
  | next, draft, point :: points =>
    let draft := { draft with distance := draft.distance + (point - next) * (draft.done + 1) }
    let draft := label.foldl (Draft.pass plain point) draft
    write label plain (point + 1) { draft with distance := draft.distance + 1 } points

def isPlain (c : Char) : Bool := c.toNat < firstPoint

def encode (label : List Char) : List Char :=
  let plain := label.filter isPlain
  let points := ((label.filter (! isPlain ·)).map Char.toNat).eraseDups.mergeSort
  let start := if plain.isEmpty then [] else plain ++ ['-']
  start ++ write label plain.length firstPoint ⟨[], 0, firstBias, plain.length⟩ points

end NoteBoard.Bootstring
