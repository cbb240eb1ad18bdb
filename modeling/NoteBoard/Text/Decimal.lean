/-! Decimal numbers as text. -/

namespace NoteBoard.Text

def digitValue (digit : Char) : Nat := digit.toNat - '0'.toNat

def digitsValue (digits : List Char) : Nat :=
  digits.foldl (fun value digit => 10 * value + digitValue digit) 0

/-- One or more digits of a number up to `largest`; a plus sign may go before them. -/
def unsigned? (largest : Nat) (text : List Char) : Option Nat :=
  let digits := match text with
    | '+' :: rest => rest
    | _ => text
  if digits.isEmpty || !digits.all Char.isDigit then none
  else if digitsValue digits ≤ largest then some (digitsValue digits) else none

/-- At least `width` digits, filled up with zeros from the left. -/
def padded (width : Nat) (n : Nat) : String :=
  let digits := toString n
  String.ofList (List.replicate (width - digits.length) '0') ++ digits

end NoteBoard.Text
