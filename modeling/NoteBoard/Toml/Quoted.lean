import NoteBoard.Text.Hex
import NoteBoard.Toml.Blank

/-! Text in quotes: basic strings with escapes and literal strings without, each on one line or,
in three quotes, over several. -/

namespace NoteBoard.Toml

/-- The character with a number, unless it is a surrogate or too large. -/
def scalar? (n : Nat) : Option Char :=
  if valid : n.isValidChar then some (Char.ofNatAux n valid) else none

def hexScalar? (digits : List Char) : Option Char :=
  if digits.all Text.isHexDigit then scalar? (Text.hexValue digits) else none

def shortEscape? (letter : Char) : Option Char :=
  if letter = 'b' then some '\x08'
  else if letter = 't' then some '\t'
  else if letter = 'n' then some '\n'
  else if letter = 'f' then some '\x0c'
  else if letter = 'r' then some '\r'
  else if letter = '"' || letter = '\\' then some letter
  else none

def unescape? : List Char → Option (List Char)
  | [] => some []
  | '\\' :: 'u' :: a :: b :: c :: d :: rest => do
    return (← hexScalar? [a, b, c, d]) :: (← unescape? rest)
  | '\\' :: 'U' :: a :: b :: c :: d :: e :: f :: g :: h :: rest => do
    return (← hexScalar? [a, b, c, d, e, f, g, h]) :: (← unescape? rest)
  | '\\' :: letter :: rest => do
    return (← shortEscape? letter) :: (← unescape? rest)
  | c :: rest => if c = '\\' then none else (unescape? rest).map (c :: ·)

/-- A basic string up to its closing quote, escapes still in place. -/
def basicBody? : Reader (List Char)
  | '"' :: rest => some ([], rest)
  | '\\' :: c :: rest => (basicBody? rest).map fun (body, rest) => ('\\' :: c :: body, rest)
  | c :: rest =>
    if isVisible c then (basicBody? rest).map fun (body, rest) => (c :: body, rest) else none
  | [] => none

def basic? : Reader (List Char) := fun text => do
  let (body, rest) ← basicBody? text
  return (← unescape? body, rest)

def literal? : Reader (List Char) := fun text =>
  let isInner (c : Char) : Bool := isVisible c && c != '\''
  match text.dropWhile isInner with
  | '\'' :: rest => some (text.takeWhile isInner, rest)
  | _ => none

/-- A string of several lines up to three closing quotes. One or two quotes right before them
belong to it. -/
def longBody? (quote : Char) (escapes : Bool) : Reader (List Char)
  | [] => none
  | c :: rest =>
    if c = quote && [quote, quote].isPrefixOf rest then
      let after := rest.drop 2
      let inner := (after.take 2).takeWhile (· = quote)
      some (inner, after.drop inner.length)
    else if escapes && c = '\\' then
      match rest with
      | next :: rest =>
        (longBody? quote escapes rest).map fun (body, rest) => (c :: next :: body, rest)
      | [] => none
    else if c = '\n' || isVisible c then
      (longBody? quote escapes rest).map fun (body, rest) => (c :: body, rest)
    else none

/-- Where a backslash at the end of a line leads. -/
inductive Joint where
  | inText
  | afterBackslash
  /-- Spaces after a backslash; the line must end. -/
  | beforeBreak
  /-- The blanks after the line break are left out. -/
  | afterBreak
  deriving DecidableEq, Repr

/-- Takes out the backslashes at line ends, with the line breaks and the blanks that follow. -/
def joinLines? : Joint → List Char → Option (List Char)
  | .inText, [] | .afterBreak, [] => some []
  | .afterBackslash, [] | .beforeBreak, [] => none
  | .inText, c :: rest =>
    if c = '\\' then joinLines? .afterBackslash rest
    else (joinLines? .inText rest).map (c :: ·)
  | .afterBackslash, c :: rest =>
    if c = '\n' then joinLines? .afterBreak rest
    else if isSpace c then joinLines? .beforeBreak rest
    else (joinLines? .inText rest).map fun joined => '\\' :: c :: joined
  | .beforeBreak, c :: rest =>
    if c = '\n' then joinLines? .afterBreak rest
    else if isSpace c then joinLines? .beforeBreak rest
    else none
  | .afterBreak, c :: rest =>
    if c = '\n' || isSpace c then joinLines? .afterBreak rest
    else if c = '\\' then joinLines? .afterBackslash rest
    else (joinLines? .inText rest).map (c :: ·)

/-- A line break right after the opening quotes is left out. -/
def dropBreak : List Char → List Char
  | '\n' :: rest => rest
  | text => text

def longBasic? : Reader (List Char) := fun text => do
  let (body, rest) ← longBody? '"' true (dropBreak text)
  let body ← joinLines? .inText body
  return (← unescape? body, rest)

def longLiteral? : Reader (List Char) := fun text => longBody? '\'' false (dropBreak text)

def quoted? : Reader (List Char)
  | '"' :: '"' :: '"' :: rest => longBasic? rest
  | '"' :: rest => basic? rest
  | '\'' :: '\'' :: '\'' :: rest => longLiteral? rest
  | '\'' :: rest => literal? rest
  | _ => none

end NoteBoard.Toml
