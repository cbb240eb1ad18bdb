import NoteBoard.Text.Word

/-! Patterns over characters and their match with preferences. Of the ways to match at one place,
the left alternative goes before the right one and a longer run before a shorter one; the match
is the first way that lets the rest of the pattern succeed. -/

namespace NoteBoard

inductive Regex where
  | empty
  | one (allowed : Char → Bool)
  /-- A run of one class, longest first. -/
  | many (allowed : Char → Bool)
  | seq (first second : Regex)
  | alt (preferred other : Regex)
  /-- Repetition, one more round before stopping. A round must consume something. -/
  | star (body : Regex)
  /-- Between a word character and another one, or the end of the text. -/
  | edge

/-- A place in a text: the number of characters before it, the last of them, and what follows. -/
structure Cursor where
  index : Nat
  before : Option Char
  rest : List Char

namespace Cursor

def start (text : List Char) : Cursor := ⟨0, none, text⟩

def atEdge (place : Cursor) : Bool :=
  (place.before.map Text.isWord).getD false != (place.rest.head?.map Text.isWord).getD false

def one? (allowed : Char → Bool) (place : Cursor) : Option Cursor :=
  match place.rest with
  | c :: rest => if allowed c then some ⟨place.index + 1, some c, rest⟩ else none
  | [] => none

/-- The places after a run of allowed characters, pushed one by one onto `passed`. -/
def runsFrom (allowed : Char → Bool) (index : Nat) (before : Option Char) (passed : List Cursor) :
    List Char → List Cursor
  | [] => ⟨index, before, []⟩ :: passed
  | c :: rest =>
    let passed := ⟨index, before, c :: rest⟩ :: passed
    if allowed c then runsFrom allowed (index + 1) (some c) passed rest else passed

/-- The places a run can end at, the farthest first. -/
def runs (allowed : Char → Bool) (place : Cursor) : List Cursor :=
  runsFrom allowed place.index place.before [] place.rest

end Cursor

namespace Regex

variable {α : Type}

/-- Rounds of `round` as long as each gets ahead, and then `done`; `limit` bounds their number. -/
def repeatFirst (round : Cursor → (Cursor → Option α) → Option α) (done : Cursor → Option α) :
    Nat → Cursor → Option α
  | 0, place => done place
  | limit + 1, place =>
    match round place fun next =>
        if place.index < next.index then repeatFirst round done limit next else none with
    | some result => some result
    | none => done place

/-- The first way to match at a place from which `done` succeeds. -/
def first? : Regex → Cursor → (Cursor → Option α) → Option α
  | empty, place, done => done place
  | one allowed, place, done => (place.one? allowed).bind done
  | many allowed, place, done => (place.runs allowed).findSome? done
  | seq head tail, place, done => head.first? place fun middle => tail.first? middle done
  | alt preferred other, place, done =>
    match preferred.first? place done with
    | some result => some result
    | none => other.first? place done
  | star body, place, done => repeatFirst (fun next => body.first? next) done place.rest.length place
  | edge, place, done => if place.atEdge then done place else none

def end? (pattern : Regex) (place : Cursor) : Option Cursor := pattern.first? place some

def opt (body : Regex) : Regex := alt body empty

def char (c : Char) : Regex := one (· == c)

def literal (text : String) : Regex := text.toList.foldr (fun c rest => seq (char c) rest) empty

def plus (allowed : Char → Bool) : Regex := seq (one allowed) (many allowed)

def upTo (allowed : Char → Bool) : Nat → Regex
  | 0 => empty
  | count + 1 => opt (seq (one allowed) (upTo allowed count))

def choice (alternatives : List Regex) (last : Regex) : Regex := alternatives.foldr alt last

end Regex

structure Span where
  start : Nat
  stop : Nat
  text : List Char
  deriving DecidableEq, Repr

namespace Regex

/-- Matches from left to right. `skip` counts the characters the last match still covers. -/
def spansFrom (pattern : Regex) (index : Nat) (before : Option Char) : Nat → List Char → List Span
  | _, [] => []
  | skip + 1, c :: rest => spansFrom pattern (index + 1) (some c) skip rest
  | 0, c :: rest =>
    match pattern.end? ⟨index, before, c :: rest⟩ with
    | some ending =>
      let size := ending.index - index
      if size = 0 then spansFrom pattern (index + 1) (some c) 0 rest
      else ⟨index, ending.index, (c :: rest).take size⟩
        :: spansFrom pattern (index + 1) (some c) (size - 1) rest
    | none => spansFrom pattern (index + 1) (some c) 0 rest

/-- The leftmost matches that do not overlap. -/
def spans (pattern : Regex) (text : List Char) : List Span := pattern.spansFrom 0 none 0 text

end Regex

end NoteBoard
