import NoteBoard.Url.Domain.CompositeTable

/-! The composed form of a text: every character is taken apart, the marks on each letter are
brought into one order, and letters and marks are put together again as far as that goes. -/

namespace NoteBoard.Domain

/-- Where a mark is attached; zero for everything that is no such mark. -/
def place (c : Char) : Nat :=
  if c.toNat < 0x80 then 0
  else match markPlaces.find? fun marks => marks.first ≤ c.toNat && c.toNat ≤ marks.last with
    | some marks => marks.place
    | none => 0

/-! Korean syllables are composed by a formula: a lead, a vowel, and perhaps a tail. -/

def syllableBase : Nat := 0xAC00
def leadBase : Nat := 0x1100
def vowelBase : Nat := 0x1161
/-- One below the first tail, so that zero stands for no tail. -/
def tailBase : Nat := 0x11A7
def leadCount : Nat := 19
def vowelCount : Nat := 21
def tailCount : Nat := 28

def isSyllable (n : Nat) : Bool :=
  syllableBase ≤ n && n < syllableBase + leadCount * vowelCount * tailCount

def splitSyllable (n : Nat) : List Char :=
  let index := n - syllableBase
  let lead := Char.ofNat (leadBase + index / tailCount / vowelCount)
  let vowel := Char.ofNat (vowelBase + index / tailCount % vowelCount)
  if index % tailCount = 0 then [lead, vowel]
  else [lead, vowel, Char.ofNat (tailBase + index % tailCount)]

def joinSyllable? (a b : Nat) : Option Char :=
  if leadBase ≤ a && a < leadBase + leadCount && vowelBase ≤ b && b < vowelBase + vowelCount then
    some (Char.ofNat
      (syllableBase + ((a - leadBase) * vowelCount + (b - vowelBase)) * tailCount))
  else if isSyllable a && (a - syllableBase) % tailCount == 0 && tailBase < b
      && b < tailBase + tailCount then
    some (Char.ofNat (a + (b - tailBase)))
  else none

/-- No character is composed in more steps than this. -/
def deepest : Nat := 4

def decomposeWithin : Nat → Char → List Char
  | 0, c => [c]
  | steps + 1, c =>
    match composites.find? (·.whole == c.toNat) with
    | some entry => decomposeWithin steps (Char.ofNat entry.first) ++ [Char.ofNat entry.second]
    | none => [c]

def decompose (c : Char) : List Char :=
  if c.toNat < 0x80 then [c]
  else if isSyllable c.toNat then splitSyllable c.toNat
  else decomposeWithin deepest c

/-- Puts a mark before marks that are already in order. -/
def insertMark (mark : Char) : List Char → List Char
  | [] => [mark]
  | c :: rest =>
    if place c ≠ 0 && place c < place mark then c :: insertMark mark rest else mark :: c :: rest

/-- Orders the marks on each letter by their places; marks at one place keep their order. -/
def order (text : List Char) : List Char :=
  text.foldr (fun c ordered => if place c = 0 then c :: ordered else insertMark c ordered) []

def compose? (a b : Char) : Option Char :=
  (joinSyllable? a.toNat b.toNat).or <|
    (composites.find? fun entry => entry.first == a.toNat && entry.second == b.toNat).map
      fun entry => Char.ofNat entry.whole

/-- Composes the characters after a letter with it. `kept` holds the marks that did not go with the
letter, the last one first; a mark behind another one at the same place or later is out of
reach, and so is a letter behind any mark. -/
def composeAfter (letter : Char) (kept : List Char) : List Char → List Char
  | [] => letter :: kept.reverse
  | c :: rest =>
    let reachable : Bool := match kept.head? with
      | some mark => place mark < place c
      | none => true
    match if reachable then compose? letter c else none with
    | some whole => composeAfter whole kept rest
    | none =>
      if place c = 0 then letter :: kept.reverse ++ composeAfter c [] rest
      else composeAfter letter (c :: kept) rest

def composeAll : List Char → List Char
  | [] => []
  | c :: rest => if place c = 0 then composeAfter c [] rest else c :: composeAll rest

def compose (text : List Char) : List Char := composeAll (order (text.flatMap decompose))

end NoteBoard.Domain
