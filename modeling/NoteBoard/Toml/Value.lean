/-! Values of a configuration document, and the tables its lines build up. A table remembers how it
came about, because that decides whether a later line may still add to it. -/

namespace NoteBoard.Toml

inductive Origin where
  /-- A header of its own, or the document itself. -/
  | header
  /-- The header of a table inside it. -/
  | implied
  | dotted
  /-- Written out in braces; closed for good. -/
  | inline
  deriving DecidableEq, Repr

inductive Value where
  | text (content : String)
  | integer (number : Int)
  /-- A number with a fraction or an exponent, as it is written. -/
  | float (literal : String)
  | boolean (value : Bool)
  /-- A date, a time of day, or both, as it is written. -/
  | moment (literal : String)
  | array (items : List Value)
  | table (origin : Origin) (entries : List (String × Value))
  /-- One table per header in double brackets. -/
  | tables (elements : List (List (String × Value)))

abbrev Entries := List (String × Value)

namespace Entries

/-- Replaces the value of a key, or adds it at the end. -/
def put (key : String) (value : Value) : Entries → Entries
  | [] => [(key, value)]
  | entry :: entries =>
    if entry.1 = key then (key, value) :: entries else entry :: put key value entries

end Entries

/-- How a path of keys is followed. -/
inductive Approach where
  | byHeader
  | byDottedKey
  deriving DecidableEq, Repr

/-- The origin of the tables that a path of keys brings into being. -/
def Approach.brings : Approach → Origin
  | .byHeader => .implied
  | .byDottedKey => .dotted

/-- A dotted key does not reach into tables with a header. -/
def Approach.enters : Approach → Origin → Bool
  | _, .inline => false
  | .byHeader, _ => true
  | .byDottedKey, origin => origin = .implied || origin = .dotted

namespace Entries

/-- Changes the table at the end of a path; missing tables on the way come into being. Of tables
with double brackets the last one is meant. -/
def alter? (approach : Approach) (change : Origin → Entries → Option Entries) :
    List String → Origin → Entries → Option Entries
  | [], origin, entries => change origin entries
  | key :: path, _, entries =>
    match entries.lookup key with
    | none =>
      (alter? approach change path approach.brings []).map fun inner =>
        entries.put key (.table approach.brings inner)
    | some (.table origin inner) =>
      if approach.enters origin then
        (alter? approach change path origin inner).map fun inner =>
          entries.put key (.table origin inner)
      else none
    | some (.tables elements) =>
      match elements.getLast? with
      | some last =>
        (alter? approach change path .header last).map fun inner =>
          entries.put key (.tables (elements.dropLast ++ [inner]))
      | none => none
    | some _ => none

def fresh? (key : String) (value : Value) (entries : Entries) : Option Entries :=
  if (entries.lookup key).isSome then none else some (entries.put key value)

/-- Gives a value to a dotted key. The table it ends in must itself have come from a dotted key. -/
def addPair? (path : List String) (value : Value) (entries : Entries) : Option Entries := do
  let key ← path.getLast?
  match path.dropLast with
  | [] => entries.fresh? key value
  | way =>
    entries.alter? .byDottedKey
      (fun origin inner => if origin = .dotted then inner.fresh? key value else none) way .header

/-- Opens the table of a header. It must not be there yet, or only be implied. -/
def openTable? (path : List String) (entries : Entries) : Option Entries := do
  let key ← path.getLast?
  entries.alter? .byHeader
    (fun _ parent =>
      match parent.lookup key with
      | none => some (parent.put key (.table .header []))
      | some (.table .implied inner) => some (parent.put key (.table .header inner))
      | some _ => none)
    path.dropLast .header

/-- Adds one more table under a header in double brackets. -/
def addElement? (path : List String) (entries : Entries) : Option Entries := do
  let key ← path.getLast?
  entries.alter? .byHeader
    (fun _ parent =>
      match parent.lookup key with
      | none => some (parent.put key (.tables [[]]))
      | some (.tables elements) => some (parent.put key (.tables (elements ++ [[]])))
      | some _ => none)
    path.dropLast .header

end Entries

end NoteBoard.Toml
