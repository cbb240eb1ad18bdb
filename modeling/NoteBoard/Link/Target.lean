/-! Where the anchor of a link points. -/

namespace NoteBoard.Link

/-- A link that starts with one of these is its own target. -/
def schemes : List String := [
  "http://", "https://", "bitcoin://", "file://", "magnet://", "mailto://", "sms://", "tel://",
  "smp://"]

def hasScheme (link : List Char) : Bool :=
  schemes.any fun scheme => scheme.toList.isPrefixOf link

def isMailto (link : List Char) : Bool := (link.take 7).map Char.toLower == "mailto:".toList

/-- An address has no path, so an at sign after a slash belongs to a URL. -/
def isAddress (link : List Char) : Bool := link.contains '@' && !link.contains '/'

def targetChars (link : List Char) : List Char :=
  if hasScheme link || isMailto link then link
  else if isAddress link then "mailto:".toList ++ link
  else "http://".toList ++ link

def target (link : String) : String := String.ofList (targetChars link.toList)

end NoteBoard.Link
