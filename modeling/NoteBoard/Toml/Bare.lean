import NoteBoard.Text.Hex
import NoteBoard.Text.Split
import NoteBoard.Toml.Value

/-! Values that stand without quotes or brackets: booleans, numbers, dates and times. Such a value
is read as one word, and the word as a whole must be of one of these kinds. -/

namespace NoteBoard.Toml

def isWordChar (c : Char) : Bool :=
  c.isAlphanum || c == '+' || c == '-' || c == '.' || c == '_' || c == ':'

/-- Digits that may have single underscores between them. -/
def grouped? (isDigit : Char → Bool) (text : List Char) : Option (List Char) :=
  let groups := Text.split '_' text
  if groups.all fun group => !group.isEmpty && group.all isDigit then some groups.flatten else none

def signed : List Char → Bool × List Char
  | '-' :: rest => (true, rest)
  | '+' :: rest => (false, rest)
  | text => (false, text)

/-- Decimal digits without leading zeros. -/
def wholeDigits? (text : List Char) : Option (List Char) := do
  let digits ← grouped? Char.isDigit text
  if text.head? = some '0' && text.length ≠ 1 then none else some digits

def isStorable (number : Int) : Bool :=
  -0x8000000000000000 ≤ number && number < 0x8000000000000000

def decimal? (word : List Char) : Option Int := do
  let (negative, text) := signed word
  let digits ← wholeDigits? text
  let size : Int := Text.digitsValue digits
  return if negative then -size else size

def isOctal (c : Char) : Bool := '0' ≤ c && c ≤ '7'

def isBinary (c : Char) : Bool := c == '0' || c == '1'

def inBase (base : Nat) (digits : List Char) : Int :=
  (digits.foldl (fun value digit => base * value + Text.hexDigitValue digit) 0 : Nat)

/-- An integer. Other bases take no sign and may have leading zeros. -/
def integer? (word : List Char) : Option Int :=
  let number := match word with
    | '0' :: 'x' :: digits => (grouped? Text.isHexDigit digits).map (inBase 16)
    | '0' :: 'o' :: digits => (grouped? isOctal digits).map (inBase 8)
    | '0' :: 'b' :: digits => (grouped? isBinary digits).map (inBase 2)
    | _ => decimal? word
  number.filter isStorable

/-! Numbers with a fraction or an exponent. -/

/-- The digits of such a number and the power of ten of the last one. -/
structure Scientific where
  digits : Nat
  exponent : Int

def exponent? (text : List Char) : Option Int := do
  let (negative, text) := signed text
  let digits ← grouped? Char.isDigit text
  let size : Int := Text.digitsValue digits
  return if negative then -size else size

def isExponentMark (c : Char) : Bool := c == 'e' || c == 'E'

/-- The fraction needs a digit on both sides of the point. -/
def mantissa? (text : List Char) : Option Scientific :=
  match text.dropWhile (· ≠ '.') with
  | _ :: fraction => do
    let whole ← wholeDigits? (text.takeWhile (· ≠ '.'))
    let fraction ← grouped? Char.isDigit fraction
    return ⟨Text.digitsValue (whole ++ fraction), -fraction.length⟩
  | [] => (wholeDigits? text).map fun whole => ⟨Text.digitsValue whole, 0⟩

def scientific? (text : List Char) : Option Scientific :=
  match text.dropWhile (! isExponentMark ·) with
  | _ :: exponent => do
    let mantissa ← mantissa? (text.takeWhile (! isExponentMark ·))
    let exponent ← exponent? exponent
    return { mantissa with exponent := mantissa.exponent + exponent }
  | [] => if text.contains '.' then mantissa? text else none

/-- The least number that rounds to infinity: half a unit of the last place above the largest
finite double. -/
def overflowBound : Nat := Nat.pow 2 1024 - Nat.pow 2 970

/-- Whether a number rounds to infinity as a double. The powers of ten are only worked out for
numbers near the bound. -/
def Scientific.overflows (number : Scientific) : Bool :=
  let places : Int := (Nat.toDigits 10 number.digits).length + number.exponent
  if number.digits = 0 || places < 300 then false
  else if 320 < places then true
  else if 0 ≤ number.exponent then overflowBound ≤ number.digits * Nat.pow 10 number.exponent.toNat
  else overflowBound * Nat.pow 10 (-number.exponent).toNat ≤ number.digits

/-- A float. Of the numbers beyond all doubles only negative ones are accepted, besides the
infinities by name. -/
def isFloat (word : List Char) : Bool :=
  let (negative, text) := signed word
  if text = "inf".toList || text = "nan".toList then true
  else match scientific? text with
    | some number => negative || !number.overflows
    | none => false

/-! Dates and times. -/

/-- Digits, and as many as asked for, with their value in a range. -/
def numberIn? (size low high : Nat) (text : List Char) : Option Nat :=
  if text.length = size && text.all Char.isDigit then
    some (Text.digitsValue text) |>.filter fun n => low ≤ n && n ≤ high
  else none

def isLeapYear (year : Nat) : Bool := year % 4 = 0 && (year % 100 ≠ 0 || year % 400 = 0)

def daysIn (year month : Nat) : Nat :=
  if month = 2 then (if isLeapYear year then 29 else 28)
  else if [4, 6, 9, 11].contains month then 30 else 31

def isDate (text : List Char) : Bool :=
  match Text.split '-' text with
  | [year, month, day] =>
    (do
      let year ← numberIn? 4 0 9999 year
      let month ← numberIn? 2 1 12 month
      numberIn? 2 1 (daysIn year month) day).isSome
  | _ => false

def isHourMinute (text : List Char) : Bool :=
  match Text.split ':' text with
  | [hour, minute] => (numberIn? 2 0 23 hour).isSome && (numberIn? 2 0 59 minute).isSome
  | _ => false

/-- A second, perhaps a leap second, and perhaps a fraction of it. -/
def isSecond (text : List Char) : Bool :=
  match Text.split '.' text with
  | [second] => (numberIn? 2 0 60 second).isSome
  | [second, fraction] =>
    (numberIn? 2 0 60 second).isSome && !fraction.isEmpty && fraction.all Char.isDigit
  | _ => false

def isTime (text : List Char) : Bool :=
  match text.drop 5 with
  | ':' :: second => isHourMinute (text.take 5) && isSecond second
  | _ => false

/-- A time of day that may be followed by its distance from universal time. -/
def isZonedTime (text : List Char) : Bool :=
  let isZone (c : Char) : Bool := c == 'Z' || c == 'z' || c == '+' || c == '-'
  isTime (text.takeWhile (! isZone ·)) &&
    match text.dropWhile (! isZone ·) with
    | [] => true
    | mark :: distance =>
      if mark == '+' || mark == '-' then isHourMinute distance else distance.isEmpty

def isTimeMark (c : Char) : Bool := c == 'T' || c == 't' || c == ' '

/-- A date, a date with a time, or a time alone. -/
def isMoment (word : List Char) : Bool :=
  isTime word ||
    isDate (word.take 10) &&
      match word.drop 10 with
      | [] => true
      | mark :: time => isTimeMark mark && isZonedTime time

/-! The word as a whole. -/

/-- The word a text starts with. A date may be followed by a space and a time. -/
def word (text : List Char) : List Char × List Char :=
  let first := text.takeWhile isWordChar
  match text.dropWhile isWordChar with
  | ' ' :: c :: rest =>
    if isDate first && isWordChar c then
      (first ++ ' ' :: (c :: rest).takeWhile isWordChar, (c :: rest).dropWhile isWordChar)
    else (first, ' ' :: c :: rest)
  | rest => (first, rest)

def bare? (word : List Char) : Option Value :=
  if word = "true".toList then some (.boolean true)
  else if word = "false".toList then some (.boolean false)
  else match integer? word with
    | some number => some (.integer number)
    | none =>
      if isFloat word then some (.float (String.ofList word))
      else if isMoment word then some (.moment (String.ofList word))
      else none

end NoteBoard.Toml
