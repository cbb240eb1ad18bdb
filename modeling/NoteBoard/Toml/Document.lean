import NoteBoard.Toml.Bare
import NoteBoard.Toml.Quoted

/-! Configuration documents: a line gives a value to a key or opens a table for the lines after it.
The document is read line by line, and the lines then build up its tables. -/

namespace NoteBoard.Toml

/-- A dotted key has fewer parts than this, and values are nested less deeply. -/
def depthLimit : Nat := 80

inductive Line where
  | pair (path : List String) (value : Value)
  | table (path : List String)
  | element (path : List String)

/-! Keys. -/

def isBareKeyChar (c : Char) : Bool := c.isAlphanum || c == '-' || c == '_'

def simpleKey? : Reader (List Char)
  | '"' :: rest => basic? rest
  | '\'' :: rest => literal? rest
  | text =>
    let key := text.takeWhile isBareKeyChar
    if key.isEmpty then none else some (key, text.dropWhile isBareKeyChar)

/-- Keys with dots between them; spaces around each are skipped. -/
def keyPath? : Nat → Reader (List String)
  | 0, _ => none
  | limit + 1, text => do
    let (key, rest) ← simpleKey? (skipSpace text)
    match skipSpace rest with
    | '.' :: rest =>
      let (path, rest) ← keyPath? limit rest
      return (String.ofList key :: path, rest)
    | rest => return ([String.ofList key], rest)

def path? : Reader (List String) := keyPath? (depthLimit - 1)

/-! Values. -/

def scalar : Reader Value := fun text =>
  match quoted? text with
  | some (content, rest) => some (.text (String.ofList content), rest)
  | none => (bare? (word text).1).map (·, (word text).2)

/-- The items of an array up to its closing bracket, at most so many. A comma may follow the last
one. -/
def items? (item : Reader Value) : Nat → Reader (List Value)
  | 0, _ => none
  | limit + 1, text => do
    match ← skipLines? false text with
    | ']' :: rest => return ([], rest)
    | text =>
      let (value, rest) ← item text
      match ← skipLines? false rest with
      | ',' :: rest =>
        let (values, rest) ← items? item limit rest
        return (value :: values, rest)
      | ']' :: rest => return ([value], rest)
      | _ => none

def pair? (item : Reader Value) : Reader (List String × Value) := fun text => do
  match ← path? text with
  | (path, '=' :: rest) =>
    let (value, rest) ← item (skipSpace rest)
    return ((path, value), rest)
  | _ => none

/-- The pairs of a table in braces up to the closing one, at least one and at most so many. -/
def pairs? (item : Reader Value) : Nat → Reader (List (List String × Value))
  | 0, _ => none
  | limit + 1, text => do
    let (pair, rest) ← pair? item text
    match skipSpace rest with
    | ',' :: rest =>
      let (pairs, rest) ← pairs? item limit rest
      return (pair :: pairs, rest)
    | '\x7d' :: rest => return ([pair], rest)
    | _ => none

def tableOfPairs? (pairs : List (List String × Value)) : Option Value :=
  (pairs.foldlM (fun entries (path, value) => Entries.addPair? path value entries) []).map
    (Value.table .inline)

/-- A table in braces after the opening one. -/
def inlineTable? (item : Reader Value) : Reader Value := fun text =>
  match skipSpace text with
  | '\x7d' :: rest => some (.table .inline [], rest)
  | _ => do
    let (pairs, rest) ← pairs? item text.length text
    return (← tableOfPairs? pairs, rest)

/-- A value that holds others at most so deep. -/
def value? : Nat → Reader Value
  | 0 => scalar
  | depth + 1 => fun text =>
    match text with
    | '[' :: rest => (items? (value? depth) text.length rest).map fun (items, rest) =>
        (.array items, rest)
    | '\x7b' :: rest => inlineTable? (value? depth) rest
    | _ => scalar text

/-! Lines. -/

/-- One line that is not blank, without its end. -/
def line? : Reader Line
  | '[' :: '[' :: rest => do
    match ← path? rest with
    | (path, ']' :: ']' :: rest) => return (.element path, rest)
    | _ => none
  | '[' :: rest => do
    match ← path? rest with
    | (path, ']' :: rest) => return (.table path, rest)
    | _ => none
  | text => do
    let ((path, value), rest) ← pair? (value? (depthLimit - 1)) text
    return (.pair path value, rest)

/-- All lines of a text, at most so many. -/
def lines? : Nat → List Char → Option (List Line)
  | _, [] => some []
  | 0, _ :: _ => none
  | limit + 1, text => do
    match lineEnd? text with
    | some rest => lines? limit rest
    | none =>
      let (line, rest) ← line? (skipSpace text)
      return line :: (← lines? limit (← lineEnd? rest))

/-! Tables. -/

/-- The tables built so far, and the header under which the next pair goes. -/
structure Draft where
  entries : Entries := []
  here : List String := []

def Draft.add? (draft : Draft) : Line → Option Draft
  | .pair path value => do
    let entries ← draft.entries.alter? .byHeader
      (fun _ table => table.addPair? path value) draft.here .header
    return { draft with entries }
  | .table path => do return ⟨← draft.entries.openTable? path, path⟩
  | .element path => do return ⟨← draft.entries.addElement? path, path⟩

def ofLines? (lines : List Line) : Option Entries :=
  (lines.foldlM Draft.add? {}).map Draft.entries

/-- A byte order mark at the start does not count. -/
def dropMark : List Char → List Char
  | '\uFEFF' :: rest => rest
  | text => text

def parse? (text : String) : Option Entries := do
  let text ← unifyBreaks? (dropMark text.toList)
  ofLines? (← lines? text.length text)

end NoteBoard.Toml
