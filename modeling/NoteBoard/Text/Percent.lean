import NoteBoard.Text.Utf8

/-! Percent coding: a byte written as `%` and two hexadecimal digits. Reading takes digits of
either case and leaves a `%` that two digits do not follow as it stands; writing uses capitals. -/

namespace NoteBoard.Percent

def sign : UInt8 := 0x25

def hexValue? (digit : UInt8) : Option Nat :=
  let n := digit.toNat
  if 0x30 ≤ n ∧ n ≤ 0x39 then some (n - 0x30)
  else if 0x41 ≤ n ∧ n ≤ 0x46 then some (n - 0x37)
  else if 0x61 ≤ n ∧ n ≤ 0x66 then some (n - 0x57)
  else none

def pair? (high low : UInt8) : Option UInt8 := do
  let h ← hexValue? high
  let l ← hexValue? low
  return Utf8.byte (16 * h + l)

def decode : List UInt8 → List UInt8
  | first :: high :: low :: rest =>
    match if first = sign then pair? high low else none with
    | some value => value :: decode rest
    | none => first :: decode (high :: low :: rest)
  | short => short

def hexDigit (n : Nat) : UInt8 := Utf8.byte (if n < 10 then 0x30 + n else 0x37 + n)

def encodeByte (value : UInt8) : List UInt8 :=
  [sign, hexDigit (value.toNat / 16), hexDigit (value.toNat % 16)]

/-- Writes the bytes outside `kept` in percent form. -/
def encode (kept : UInt8 → Bool) (bytes : List UInt8) : List UInt8 :=
  bytes.flatMap fun value => if kept value then [value] else encodeByte value

/-- The same for text: ASCII characters outside `kept` and all others are written byte by byte. -/
def encodeChars (kept : Char → Bool) (text : List Char) : List Char :=
  text.flatMap fun c =>
    if c.toNat < 0x80 && kept c then [c]
    else (Utf8.encodeChar c).flatMap fun value =>
      (encodeByte value).map fun b => Char.ofNat b.toNat

end NoteBoard.Percent
