/-! Secrets of form tokens. Each draw of 64 bits gives ten groups of six, its lowest bit left out
and the lowest group first. A group that numbers a letter gives that letter, any other is
discarded, so every letter is equally likely. The letters fill a secret from its end. -/

namespace NoteBoard.Secret

def size : Nat := 100

def alphabet : List Char := "abcdefghijklmnopqrstuvwxyzABCDEFGHIJKLMNOPQRSTUVWXYZ".toList

def groupsPerDraw : Nat := 10

/-- A secret that is being filled. -/
structure Filling where
  /-- How many draws are used up. -/
  position : Nat
  /-- What is left of the last draw, the next group lowest. -/
  cache : UInt64
  /-- How many groups of it are left. -/
  remaining : Nat
  letters : List Char

namespace Filling

def draw (draws : Nat → UInt64) (filling : Filling) : Filling :=
  { filling with
    position := filling.position + 1
    cache := draws filling.position >>> 1
    remaining := groupsPerDraw }

def start (draws : Nat → UInt64) (position : Nat) : Filling := draw draws ⟨position, 0, 0, []⟩

/-- Looks at one group, after a further draw if no group is left. -/
def round (draws : Nat → UInt64) (filling : Filling) : Filling :=
  let filling := if filling.remaining = 0 then filling.draw draws else filling
  let letters := match alphabet[(filling.cache &&& 63).toNat]? with
    | some letter => letter :: filling.letters
    | none => filling.letters
  { filling with cache := filling.cache >>> 6, remaining := filling.remaining - 1, letters }

end Filling

/-- Makes so many rounds, or fewer if the secret is full before. -/
def rounds (draws : Nat → UInt64) : Nat → Filling → Filling
  | 0, filling => filling
  | more + 1, filling =>
    if filling.letters.length < size then rounds draws more (filling.round draws) else filling

/-- More rounds than most secrets need. -/
def batch : Nat := 1000

/-- Goes on, one batch after the other, and for ever if the draws never give enough letters. -/
def Filling.resume (draws : Nat → UInt64) (filling : Filling) : Option Filling :=
  if filling.letters.length < size then rounds draws batch filling |>.resume draws
  else some filling
partial_fixpoint

/-- Makes rounds until the secret is full. The first batch stands apart from the others, so what it
gives can be computed inside a proof. -/
def fill (draws : Nat → UInt64) (filling : Filling) : Option Filling :=
  let first := rounds draws batch filling
  if first.letters.length < size then first.resume draws else some first

/-- The secret that starts at a position, and the position of the next one; what is left of its
last draw is dropped. -/
@[irreducible]
def take (draws : Nat → UInt64) (position : Nat) : List Char × Nat :=
  match fill draws (.start draws position) with
  | some full => (full.letters, full.position)
  | none => ([], position)

end NoteBoard.Secret
