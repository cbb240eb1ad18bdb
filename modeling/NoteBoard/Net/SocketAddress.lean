import NoteBoard.Net.Ip

/-! Addresses a listener can be bound to: an internet address and a port. -/

namespace NoteBoard

inductive SocketAddress where
  | v4 (octets : List Nat) (port : Nat)
  | v6 (groups : List Nat) (scope : Nat) (port : Nat)
  deriving DecidableEq, Repr

namespace SocketAddress

/-- Digits only; leading zeros do no harm. -/
def number? (largest : Nat) (text : List Char) : Option Nat :=
  if text.isEmpty || !text.all Char.isDigit then none
  else if Text.digitsValue text ≤ largest then some (Text.digitsValue text) else none

def port? (text : List Char) : Option Nat := number? 65535 text

def v4? (text : List Char) : Option SocketAddress := do
  let (address, port) ← Text.cut? [':'] text
  return .v4 (← Ip.quad? address) (← port? port)

/-- A scope, if there is one, follows the groups after a percent sign. -/
def scoped? (text : List Char) : Option (List Nat × Nat) :=
  match Text.cut? ['%'] text with
  | none => (Ip.groups? text).map (·, 0)
  | some (address, scope) => do
    let groups ← Ip.groups? address
    let scope ← number? 0xFFFFFFFF scope
    return (groups, scope)

/-- Eight groups in square brackets, a colon and a port. -/
def v6? : List Char → Option SocketAddress
  | '[' :: text => do
    let (address, port) ← Text.cut? "]:".toList text
    let (groups, scope) ← scoped? address
    return .v6 groups scope (← port? port)
  | _ => none

def parse? (text : String) : Option SocketAddress := (v4? text.toList).or (v6? text.toList)

end SocketAddress

end NoteBoard
