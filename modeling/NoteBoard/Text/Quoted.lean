import NoteBoard.Text.HiddenTable

/-! Quoted text for messages: double quotes around it, a backslash before quotes and backslashes,
short escapes for the usual controls, and a hexadecimal number for every other character that
would not show. Single quotes stand as they are. -/

namespace NoteBoard.Quoted

def isHidden (c : Char) : Bool :=
  c.toNat < 0x20 || c.toNat == 0x7F || Text.hiddenRanges.covers c

def numeric (c : Char) : List Char :=
  "\\u\x7b".toList ++ Nat.toDigits 16 c.toNat ++ ['\x7d']

def escape (c : Char) : List Char :=
  if c = '\x00' then ['\\', '0']
  else if c = '\t' then ['\\', 't']
  else if c = '\r' then ['\\', 'r']
  else if c = '\n' then ['\\', 'n']
  else if c = '"' || c = '\\' then ['\\', c]
  else if isHidden c then numeric c
  else [c]

def render (text : String) : String :=
  String.ofList ('"' :: text.toList.flatMap escape ++ ['"'])

end NoteBoard.Quoted
