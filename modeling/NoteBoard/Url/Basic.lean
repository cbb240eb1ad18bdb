import NoteBoard.Net.Ip

/-! URLs: their parts, their text, and what can be wrong with one. -/

namespace NoteBoard

inductive UrlError where
  | emptyHost
  | invalidDomain
  | invalidPort
  | invalidIpv4
  | invalidIpv6
  | invalidHostChar
  | noScheme
  deriving DecidableEq, Repr

def UrlError.message : UrlError → String
  | .emptyHost => "empty host"
  | .invalidDomain => "invalid international domain name"
  | .invalidPort => "invalid port number"
  | .invalidIpv4 => "invalid IPv4 address"
  | .invalidIpv6 => "invalid IPv6 address"
  | .invalidHostChar => "invalid domain character"
  | .noScheme => "relative URL without a base"

inductive Host where
  | name (text : List Char)
  | ipv4 (address : Nat)
  | ipv6 (groups : List Nat)
  deriving DecidableEq, Repr

/-- What follows the double slash. Only schemes without rules of their own do without a host. -/
structure Authority where
  username : List Char
  password : List Char
  host : Option Host
  port : Option Nat
  deriving DecidableEq, Repr

inductive UrlPath where
  /-- A path that is not read as segments. -/
  | plain (text : List Char)
  /-- A slash goes before each segment. -/
  | segments (list : List (List Char))
  deriving DecidableEq, Repr

structure Url where
  scheme : List Char
  authority : Option Authority
  path : UrlPath
  query : Option (List Char)
  fragment : Option (List Char)
  deriving DecidableEq, Repr

def Host.isEmpty : Host → Bool
  | .name text => text.isEmpty
  | .ipv4 _ | .ipv6 _ => false

def Host.render : Host → List Char
  | .name text => text
  | .ipv4 address => Ip.renderQuad address
  | .ipv6 groups => '[' :: Ip.renderGroups groups ++ [']']

def Authority.renderCredentials (authority : Authority) : List Char :=
  let password := if authority.password.isEmpty then [] else ':' :: authority.password
  if authority.username.isEmpty && authority.password.isEmpty then []
  else authority.username ++ password ++ ['@']

def Authority.render (authority : Authority) : List Char :=
  "//".toList ++ authority.renderCredentials
    ++ (authority.host.map Host.render).getD []
    ++ (authority.port.map fun port => ':' :: (toString port).toList).getD []

def UrlPath.render : UrlPath → List Char
  | .plain text => text
  | .segments list => list.flatMap ('/' :: ·)

namespace Url

/-- Without an authority, a path that starts with two slashes is told apart by a dot. -/
def renderPath (url : Url) : List Char :=
  let path := url.path.render
  if url.authority.isNone && "//".toList.isPrefixOf path then "/.".toList ++ path else path

def renderChars (url : Url) : List Char :=
  url.scheme ++ ':' :: (url.authority.map Authority.render).getD []
    ++ url.renderPath
    ++ (url.query.map ('?' :: ·)).getD []
    ++ (url.fragment.map ('#' :: ·)).getD []

def render (url : Url) : String := String.ofList url.renderChars

def isHttp (url : Url) : Bool := url.scheme == "http".toList || url.scheme == "https".toList

end Url

end NoteBoard
