import NoteBoard.Text.Utf8

/-! The search pattern of the store: `%` stands for any stretch, `_` for one character, and all
else for itself, ASCII letters in either case. Pattern and text both end at a NUL character. -/

namespace NoteBoard.Like

inductive Verdict where
  | found
  | mismatch
  /-- No match here, nor from any later place. -/
  | hopeless
  deriving DecidableEq, Repr

/-- The two last code points of the basic plane are not told apart from the replacement
character. -/
def seen (c : Char) : Char :=
  if c.toNat = 0xFFFE ∨ c.toNat = 0xFFFF then Utf8.replacement else c

def same (expected c : Char) : Bool := (seen expected).toLower == (seen c).toLower

/-- Tries the rest of the pattern after each occurrence of a character. -/
def search (isStart : Char → Bool) (next : List Char → Verdict) : List Char → Verdict
  | [] => .hopeless
  | c :: rest =>
    if isStart c then
      match next rest with
      | .mismatch => search isStart next rest
      | verdict => verdict
    else search isStart next rest

/-- Matches a pattern that may follow a `%`. -/
def matchFrom : List Char → Bool → List Char → Verdict
  | [], starred, text => if starred || text.isEmpty then .found else .mismatch
  | p :: pattern, starred, text =>
    if p = '%' then matchFrom pattern true text
    else if p = '_' then
      match text with
      | _ :: rest => matchFrom pattern starred rest
      | [] => if starred then .hopeless else .mismatch
    else if starred then search (same p) (matchFrom pattern false) text
    else match text with
      | c :: rest => if same p c then matchFrom pattern false rest else .mismatch
      | [] => .mismatch

def upToNul (text : List Char) : List Char := text.takeWhile (· ≠ '\x00')

def like (pattern text : List Char) : Bool :=
  matchFrom (upToNul pattern) false (upToNul text) = .found

def anywhere (needle : List Char) : List Char := '%' :: needle ++ ['%']

/-- The longest pattern in bytes that is tried at all. -/
def largestPattern : Nat := 50000

def isTooLong (pattern : List Char) : Bool := largestPattern < (Utf8.encode pattern).length

end NoteBoard.Like
