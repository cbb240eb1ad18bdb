import NoteBoard.Url.Host

/-! Reading of absolute URLs. White space around a URL and tabs and line breaks inside it are
dropped; for the schemes of the web a backslash reads as a slash, and dots in a path are resolved. -/

namespace NoteBoard.Url

open Text

/-- How much a scheme has rules of its own. -/
inductive SchemeKind where
  | file
  /-- A scheme of the web and its usual port. -/
  | web (port : Nat)
  | other
  deriving DecidableEq, Repr

def webPorts : List (String × Nat) :=
  [("http", 80), ("https", 443), ("ws", 80), ("wss", 443), ("ftp", 21)]

def SchemeKind.of (scheme : List Char) : SchemeKind :=
  if scheme = "file".toList then .file
  else match webPorts.lookup (String.ofList scheme) with
    | some port => .web port
    | none => .other

def SchemeKind.isSpecial : SchemeKind → Bool
  | .other => false
  | .file | .web _ => true

def isTrimmed (c : Char) : Bool := c.toNat ≤ 0x20

def isDropped (c : Char) : Bool := c == '\t' || c == '\n' || c == '\r'

def significant (input : List Char) : List Char :=
  let trimmed := ((input.dropWhile isTrimmed).reverse.dropWhile isTrimmed).reverse
  trimmed.filter (! isDropped ·)

def isSchemeChar (c : Char) : Bool := c.isAlphanum || c == '+' || c == '-' || c == '.'

/-- The scheme in lower case and what follows its colon. -/
def scheme? (input : List Char) : Option (List Char × List Char) :=
  match input.head?, input.dropWhile isSchemeChar with
  | some first, ':' :: rest =>
    if first.isAlpha then some ((input.takeWhile isSchemeChar).map Char.toLower, rest) else none
  | _, _ => none

/-! What is written in percent form, besides controls and everything outside ASCII. -/

def keptOutside (escaped : String) (c : Char) : Bool :=
  !Host.isControl c && !escaped.toList.contains c

def fragmentKept : Char → Bool := keptOutside " \"<>\x60"

def pathKept : Char → Bool := keptOutside " \"<>\x60#?\x7b\x7d"

def userKept : Char → Bool := keptOutside " \"<>\x60#?\x7b\x7d/:;=@[\\]^|"

def queryKept (special : Bool) : Char → Bool :=
  keptOutside (if special then " \"#<>'" else " \"#<>")

/-! The path. -/

def isSlash (special : Bool) (c : Char) : Bool := c == '/' || (special && c == '\\')

def isSingleDot (segment : List Char) : Bool :=
  [".", "%2e"].contains (String.ofList (segment.map Char.toLower))

def isDoubleDot (segment : List Char) : Bool :=
  ["..", ".%2e", "%2e.", "%2e%2e"].contains (String.ofList (segment.map Char.toLower))

/-- A letter with a colon, or with a bar in its place. -/
def isDriveLetter : List Char → Bool
  | [letter, mark] => letter.isAlpha && (mark == ':' || mark == '|')
  | _ => false

/-- Goes back one segment; a drive letter is never left. -/
def parent : List (List Char) → List (List Char)
  | [] => []
  | last :: before => if isDriveLetter last then last :: before else before

/-- The first segment of a file path, with the colon of a drive letter put right. -/
def fileStart (segment : List Char) : List Char :=
  if isDriveLetter segment then segment.take 1 ++ [':'] else segment

/-- Resolves the segments of a path. `done` holds the finished ones, the last first. -/
def resolve (isFile : Bool) (done : List (List Char)) : List (List Char) → List (List Char)
  | [] => done.reverse
  | segment :: rest =>
    if isDoubleDot segment then
      if rest.isEmpty then ([] :: parent done).reverse else resolve isFile (parent done) rest
    else if isSingleDot segment then
      if rest.isEmpty then ([] :: done).reverse else resolve isFile done rest
    else
      let segment := if isFile && done.isEmpty then fileStart segment else segment
      resolve isFile (segment :: done) rest

def splitPath (special : Bool) (path : List Char) : List (List Char) :=
  split '/' (path.map fun c => if isSlash special c then '/' else c)

def encodePath (segment : List Char) : List Char := Percent.encodeChars pathKept segment

/-- The segments of a path that follows its first slash. -/
def rootedSegments (kind : SchemeKind) (path : List Char) : List (List Char) :=
  resolve (kind = .file) [] ((splitPath kind.isSpecial path).map encodePath)

/-- A file path does not start with empty segments. -/
def withoutEmptyStart (segments : List (List Char)) : List (List Char) :=
  match segments.dropWhile List.isEmpty with
  | [] => [[]]
  | segments => segments

def startsWithDrive (segments : List (List Char)) : Bool :=
  (segments.head?.map isDriveLetter).getD false

def isPathEnd (c : Char) : Bool := c == '?' || c == '#'

/-- The path from an authority on. Only schemes without rules of their own have an empty one. -/
def pathAfterAuthority (kind : SchemeKind) (path : List Char) : List (List Char) :=
  match path with
  | [] => if kind.isSpecial then [[]] else []
  | first :: rest =>
    if isSlash kind.isSpecial first then rootedSegments kind rest else rootedSegments kind path

/-! The authority. -/

def isAuthorityEnd (special : Bool) (c : Char) : Bool := isSlash special c || isPathEnd c

/-- The host ends at the first colon outside square brackets. -/
def hostText (inBrackets : Bool) : List Char → List Char × List Char
  | [] => ([], [])
  | c :: rest =>
    if c = ':' && !inBrackets then ([], c :: rest)
    else
      let (host, after) := hostText (c = '[' || (inBrackets && c ≠ ']')) rest
      (c :: host, after)

structure Credentials where
  username : List Char
  password : List Char

def Credentials.isEmpty (credentials : Credentials) : Bool :=
  credentials.username.isEmpty && credentials.password.isEmpty

/-- The first colon ends the name. -/
def credentials (text : List Char) : Credentials :=
  let encode := Percent.encodeChars userKept
  ⟨encode (text.takeWhile (· ≠ ':')), encode ((text.dropWhile (· ≠ ':')).drop 1)⟩

def splitCredentials (text : List Char) : Option (List Char) × List Char :=
  let host := (text.reverse.takeWhile (· ≠ '@')).reverse
  if host.length = text.length then (none, text)
  else (some (text.take (text.length - host.length - 1)), host)

/-- A port that is not written, or is the usual one, is none. -/
def port? (kind : SchemeKind) (digits : List Char) : Except UrlError (Option Nat) :=
  if !digits.all Char.isDigit || 65535 < digitsValue digits then .error .invalidPort
  else if digits.isEmpty || kind = .web (digitsValue digits) then .ok none
  else .ok (some (digitsValue digits))

/-- A port ends at a backslash too, which then starts the path. -/
def isPortEnd (c : Char) : Bool := c == '\\'

def hostAndPort (kind : SchemeKind) (text : List Char) : Except UrlError (Host × Option Nat) := do
  let (hostPart, rest) := hostText false text
  let host ←
    if kind.isSpecial then
      if hostPart.isEmpty then .error .emptyHost else Host.parse hostPart
    else Host.parseOther hostPart
  if host.isEmpty && !rest.isEmpty then .error .emptyHost
  else return (host, ← port? kind ((rest.drop 1).takeWhile (! isPortEnd ·)))

def afterPort (text : List Char) : List Char :=
  (hostText false (splitCredentials text).2).2.dropWhile (! isPortEnd ·)

/-- The authority, all of the text but what a backslash cuts off. `followed` says that something
comes after it. Nothing before an at sign is taken for a missing host if there is none either. -/
def authorityOf (kind : SchemeKind) (text : List Char) (followed : Bool) :
    Except UrlError Authority := do
  let (user, hostPart) := splitCredentials text
  if user = some [] && hostPart.isEmpty && followed then .error .emptyHost
  let user := credentials (user.getD [])
  let (host, port) ← hostAndPort kind hostPart
  if host.isEmpty then
    if user.isEmpty then return ⟨[], [], none, port⟩ else .error .emptyHost
  else return ⟨user.username, user.password, some host, port⟩

/-! The whole. -/

/-- Query and fragment of what follows a path. -/
def withRest (scheme : List Char) (kind : SchemeKind) (authority : Option Authority)
    (path : UrlPath) (rest : List Char) : Url :=
  let beforeFragment := rest.takeWhile (· ≠ '#')
  let query := match beforeFragment with
    | '?' :: text => some (Percent.encodeChars (queryKept kind.isSpecial) text)
    | _ => none
  let fragment := match rest.dropWhile (· ≠ '#') with
    | '#' :: text => some (Percent.encodeChars fragmentKept text)
    | _ => none
  ⟨scheme, authority, path, query, fragment⟩

def parseAfterSlashes (scheme : List Char) (kind : SchemeKind) (text : List Char) :
    Except UrlError Url := do
  let isEnd := isAuthorityEnd kind.isSpecial
  let authorityText := text.takeWhile (! isEnd ·)
  let rest := text.dropWhile (! isEnd ·)
  let authority ← authorityOf kind authorityText !rest.isEmpty
  let rest := afterPort authorityText ++ rest
  let path := pathAfterAuthority kind (rest.takeWhile (! isPathEnd ·))
  return withRest scheme kind authority (.segments path) (rest.dropWhile (! isPathEnd ·))

/-- The host of a file URL with two slashes. A drive letter is no host, and the name of the machine
itself counts as none. -/
def fileHost (text : List Char) : Except UrlError (Option Host) :=
  if text.isEmpty || isDriveLetter text then .ok none
  else (Host.parse text).map fun host => if host = .name "localhost".toList then none else some host

/-- A file URL names a host only after two slashes, and a path that starts with a drive letter does
without one. -/
def parseFile (scheme : List Char) (text : List Char) : Except UrlError Url := do
  let path := text.takeWhile (! isPathEnd ·)
  let rest := text.dropWhile (! isPathEnd ·)
  let finish (host : Option Host) (segments : List (List Char)) : Url :=
    withRest scheme .file (some ⟨[], [], host, none⟩) (.segments (withoutEmptyStart segments)) rest
  match path with
  | first :: path =>
    if isSlash true first then
      match path with
      | second :: afterSlashes =>
        if isSlash true second then
          let hostPart := afterSlashes.takeWhile (! isSlash true ·)
          let host ← fileHost hostPart
          let path := if isDriveLetter hostPart then afterSlashes
            else (afterSlashes.dropWhile (! isSlash true ·)).drop 1
          let segments := rootedSegments .file path
          return finish (if startsWithDrive segments then none else host) segments
        else return finish none (rootedSegments .file path)
      | [] => return finish none (rootedSegments .file [])
    else return finish none (rootedSegments .file (first :: path))
  | [] => return finish none (rootedSegments .file [])

def parseOther (scheme : List Char) (text : List Char) : Except UrlError Url :=
  match text with
  | '/' :: '/' :: afterSlashes => parseAfterSlashes scheme .other afterSlashes
  | _ =>
    let path := text.takeWhile (! isPathEnd ·)
    let rest := text.dropWhile (! isPathEnd ·)
    .ok <| withRest scheme .other none
      (match path with
        | '/' :: path => .segments (rootedSegments .other path)
        | _ => .plain (Percent.encodeChars (! Host.isControl ·) path))
      rest

def parseChars (input : List Char) : Except UrlError Url :=
  match scheme? (significant input) with
  | none => .error .noScheme
  | some (scheme, text) =>
    match SchemeKind.of scheme with
    | .file => parseFile scheme text
    | .web port => parseAfterSlashes scheme (.web port) (text.dropWhile (isSlash true))
    | .other => parseOther scheme text

def parse (input : String) : Except UrlError Url := parseChars input.toList

end NoteBoard.Url
