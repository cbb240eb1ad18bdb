import NoteBoard.Link.Pattern
import NoteBoard.Link.Target

/-! Annotation of a text with anchors. The links are found again one after the other by their
characters alone, each at the first place from where the one before it ended. -/

namespace NoteBoard.Link

inductive Piece where
  | char (c : Char)
  | link (text : List Char)
  deriving DecidableEq, Repr

/-- Cuts a text at the given links. `skip` counts the characters the last link still covers. -/
def weaveFrom : Nat → List (List Char) → List Char → List Piece
  | _, _, [] => []
  | skip + 1, links, _ :: rest => weaveFrom skip links rest
  | 0, [], c :: rest => .char c :: weaveFrom 0 [] rest
  | 0, link :: links, c :: rest =>
    if link.isPrefixOf (c :: rest) then .link link :: weaveFrom (link.length - 1) links rest
    else .char c :: weaveFrom 0 (link :: links) rest

/-- Empty links are left out. -/
def weave (links : List (List Char)) (text : List Char) : List Piece :=
  weaveFrom 0 (links.filter (! ·.isEmpty)) text

def anchor (link : List Char) : List Char :=
  "<a href=\"".toList ++ targetChars link ++ "\" target=\"_blank\">".toList ++ link ++ "</a>".toList

def Piece.markup : Piece → List Char
  | .char c => [c]
  | .link text => anchor text

def markupOf (pieces : List Piece) : List Char := pieces.flatMap Piece.markup

def annotateWith (links : List String) (text : String) : String :=
  String.ofList (markupOf (weave (links.map String.toList) text.toList))

/-- The text with an anchor around each link found in it. Nothing else is changed, and nothing is
escaped. -/
def annotate (text : String) : String := annotateWith (scan text) text

end NoteBoard.Link
