import NoteBoard.Toml.Document

/-! Writing a document line by line. Every text can be written: quotes, backslashes and control
characters are escaped, and a key that is not bare is quoted. -/

namespace NoteBoard.Toml

/-- Control characters have numbers of at most two hexadecimal digits. -/
def writeControl (c : Char) : List Char :=
  "\\u00".toList ++ [Nat.digitChar (c.toNat / 16), Nat.digitChar (c.toNat % 16)]

def writeChar (c : Char) : List Char :=
  if c = '"' || c = '\\' then ['\\', c]
  else if isVisible c then [c]
  else writeControl c

def writeText (text : List Char) : List Char := '"' :: text.flatMap writeChar ++ ['"']

def isBareKey (key : List Char) : Bool := !key.isEmpty && key.all isBareKeyChar

def writeKey (key : String) : List Char :=
  if isBareKey key.toList then key.toList else writeText key.toList

def writePath (path : List String) : List Char := ['.'].intercalate (path.map writeKey)

mutual

/-- A value as it stands after a key. Tables are written in braces. -/
def Value.write : Value → List Char
  | .text content => writeText content.toList
  | .integer number => (toString number).toList
  | .float literal => literal.toList
  | .boolean value => (toString value).toList
  | .moment literal => literal.toList
  | .array items => '[' :: writeItems items
  | .table _ entries => '\x7b' :: writeEntries entries
  | .tables _ => []

def writeItems : List Value → List Char
  | [] => [']']
  | [item] => item.write ++ [']']
  | item :: items => item.write ++ ',' :: writeItems items

def writeEntries : List (String × Value) → List Char
  | [] => ['\x7d']
  | [entry] => writeEntry entry ++ ['\x7d']
  | entry :: entries => writeEntry entry ++ ',' :: writeEntries entries

def writeEntry : String × Value → List Char
  | (key, value) => writeKey key ++ " = ".toList ++ value.write

end

def Line.write : Line → List Char
  | .pair path value => writePath path ++ " = ".toList ++ value.write
  | .table path => '[' :: writePath path ++ [']']
  | .element path => "[[".toList ++ writePath path ++ "]]".toList

def writeLines (lines : List Line) : List Char := lines.flatMap fun line => line.write ++ ['\n']

def write (lines : List Line) : String := String.ofList (writeLines lines)

end NoteBoard.Toml
