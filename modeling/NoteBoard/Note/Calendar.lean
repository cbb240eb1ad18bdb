import NoteBoard.Note.Basic
import NoteBoard.Text.Decimal

/-! Dates of the Gregorian calendar, extended without end in both directions. -/

namespace NoteBoard

namespace Calendar

/-- The first second of the year -262143. -/
def earliest : Int := -8334601228800

/-- The last second of the year 262142. -/
def latest : Int := 8210266876799

/-- A stored time that the calendar does not reach reads as the start of 1970. -/
def readable (time : Int) : Int :=
  if earliest ≤ time ∧ time ≤ latest then time else 0

end Calendar

structure CivilDate where
  year : Int
  month : Nat
  day : Nat
  deriving DecidableEq, Repr

/-- The date so many days after the first of January 1970. Years are counted from March, so that
the day a leap year adds is the last of its year; 400 such years have 146097 days. -/
def CivilDate.ofDays (days : Int) : CivilDate :=
  let shifted := days + 719468
  let era := shifted / 146097
  let dayOfEra := (shifted % 146097).toNat
  let yearOfEra := (dayOfEra - dayOfEra / 1460 + dayOfEra / 36524 - dayOfEra / 146096) / 365
  let dayOfYear := dayOfEra - (365 * yearOfEra + yearOfEra / 4 - yearOfEra / 100)
  let marchMonth := (5 * dayOfYear + 2) / 153
  let day := dayOfYear - (153 * marchMonth + 2) / 5 + 1
  let month := if marchMonth < 10 then marchMonth + 3 else marchMonth - 9
  ⟨yearOfEra + era * 400 + (if month ≤ 2 then 1 else 0), month, day⟩

/-- Four digits, with a sign for years that need another form. -/
def CivilDate.yearText (year : Int) : String :=
  let digits := Text.padded 4 year.natAbs
  if 0 ≤ year ∧ year ≤ 9999 then digits else if year < 0 then "-" ++ digits else "+" ++ digits

def Calendar.render (time : Int) : String :=
  let date := CivilDate.ofDays (time / 86400)
  let second := (time % 86400).toNat
  CivilDate.yearText date.year ++ "-" ++ Text.padded 2 date.month ++ "-" ++ Text.padded 2 date.day
    ++ " " ++ Text.padded 2 (second / 3600) ++ ":" ++ Text.padded 2 (second / 60 % 60)
    ++ ":" ++ Text.padded 2 (second % 60)

end NoteBoard
