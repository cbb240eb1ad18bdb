/-! Escaping for element content and quoted attribute values. The five special characters are
replaced one after the other over the whole text, the ampersand first, so that no entity is
escaped a second time; the character by character reading gives the same text. -/

namespace NoteBoard.Html

def entities : List (Char × List Char) := [
  ('&', "&amp;".toList),
  ('<', "&lt;".toList),
  ('>', "&gt;".toList),
  ('"', "&quot;".toList),
  ('\'', "&#x27;".toList)]

def replaceEvery (special : Char) (entity text : List Char) : List Char :=
  text.flatMap fun c => if c = special then entity else [c]

def escapeChars (text : List Char) : List Char :=
  entities.foldl (fun current entry => replaceEvery entry.1 entry.2 current) text

def escapeChar (c : Char) : List Char :=
  match entities.lookup c with
  | some entity => entity
  | none => [c]

def escape (text : String) : String := String.ofList (escapeChars text.toList)

/-- Undoes the five entities from left to right; any other ampersand stands as it is. -/
def unescapeChars : List Char → List Char
  | '&' :: 'a' :: 'm' :: 'p' :: ';' :: rest => '&' :: unescapeChars rest
  | '&' :: 'l' :: 't' :: ';' :: rest => '<' :: unescapeChars rest
  | '&' :: 'g' :: 't' :: ';' :: rest => '>' :: unescapeChars rest
  | '&' :: 'q' :: 'u' :: 'o' :: 't' :: ';' :: rest => '"' :: unescapeChars rest
  | '&' :: '#' :: 'x' :: '2' :: '7' :: ';' :: rest => '\'' :: unescapeChars rest
  | c :: rest => c :: unescapeChars rest
  | [] => []

def unescape (text : String) : String := String.ofList (unescapeChars text.toList)

end NoteBoard.Html
