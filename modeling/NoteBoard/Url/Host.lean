import NoteBoard.Text.Percent
import NoteBoard.Url.Basic
import NoteBoard.Url.Domain

/-! Hosts of URLs. A host in square brackets is a numeric address of eight groups; for the schemes
of the web any other host is a domain name, and one whose last label is a number is an address of
four octets. -/

namespace NoteBoard.Host

open Text

/-- A number as old address readers take it: `0x` makes it hexadecimal and a leading zero octal.
The outer `none` is no number, the inner one a number beyond 32 bits. -/
def number? (text : List Char) : Option (Option Nat) :=
  let bounded (n : Nat) : Option Nat := if n < 0x100000000 then some n else none
  match text with
  | [] => none
  | '0' :: mark :: digits =>
    if mark = 'x' || mark = 'X' then
      if digits.all isHexDigit then some (bounded (hexValue digits)) else none
    else if (mark :: digits).all fun c => '0' ≤ c && c ≤ '7' then
      some (bounded ((mark :: digits).foldl (fun value c => 8 * value + digitValue c) 0))
    else none
  | _ => if text.all Char.isDigit then some (bounded (digitsValue text)) else none

/-- The labels of a name; a dot at the end has no label after it. -/
def labels (name : List Char) : List (List Char) :=
  let parts := split '.' name
  if parts.getLast? = some [] then parts.dropLast else parts

def endsInNumber (name : List Char) : Bool :=
  match (labels name).getLast? with
  | none => false
  | some last => (!last.isEmpty && last.all Char.isDigit) || (number? last).isSome

/-- The last number fills all octets that the ones before it leave. -/
def ipv4? (name : List Char) : Option Nat := do
  let numbers ← (labels name).mapM fun label => (number? label).join
  let last ← numbers.getLast?
  let octets := numbers.dropLast
  if 3 < octets.length || octets.any (255 < ·) || Nat.pow 256 (4 - octets.length) ≤ last then none
  else
    some (octets.zipIdx.foldl (fun address (octet, i) => address + octet * Nat.pow 256 (3 - i)) last)

def bracketed? (text : List Char) : Except UrlError Host :=
  match text.getLast? with
  | some ']' =>
    match Ip.groups? (text.drop 1).dropLast with
    | some groups => .ok (.ipv6 groups)
    | none => .error .invalidIpv6
  | _ => .error .invalidIpv6

def parse (text : List Char) : Except UrlError Host :=
  if text.head? = some '[' then bracketed? text
  else
    let bytes := Percent.decode (Utf8.encode text)
    match (Utf8.decode? bytes).bind Domain.asciiForm? with
    | none => .error .invalidDomain
    | some [] => .error .emptyHost
    | some domain =>
      if endsInNumber domain then
        match ipv4? domain with
        | some address => .ok (.ipv4 address)
        | none => .error .invalidIpv4
      else .ok (.name domain)

def isForbidden (c : Char) : Bool :=
  "\x00\t\n\r #/:<>?@[\\]^|".toList.contains c

def isControl (c : Char) : Bool := c.toNat < 0x20 || c.toNat == 0x7F

/-- A host of any other scheme: kept as it is but for percent coding. -/
def parseOther (text : List Char) : Except UrlError Host :=
  if text.head? = some '[' then bracketed? text
  else if text.any isForbidden then .error .invalidHostChar
  else .ok (.name (Percent.encodeChars (! isControl ·) text))

end NoteBoard.Host
