import NoteBoard.Url.Domain.AllowedTable
import NoteBoard.Url.Domain.ExpansionTable
import NoteBoard.Url.Domain.FoldTable

/-! The mapping of domain names: capitals become small letters, forms for compatibility the usual
ones, and some characters are dropped. A character that no name may hold has no image. -/

namespace NoteBoard.Domain

def isAscii (c : Char) : Bool := c.toNat < 0x80

def FoldRun.covers (run : FoldRun) (n : Nat) : Bool :=
  run.first ≤ n && n ≤ run.last && (n - run.first) % run.step == 0

def FoldRun.image (run : FoldRun) (n : Nat) : Char := Char.ofNat (run.target + (n - run.first))

def mapWide? (c : Char) : Option (List Char) :=
  if allowedRanges.covers c then some [c]
  else if ignoredRanges.covers c then some []
  else match foldRuns.find? (·.covers c.toNat) with
    | some run => some [run.image c.toNat]
    | none => (expansions.lookup c.toNat).map (·.map Char.ofNat)

def mapChar? (c : Char) : Option (List Char) := if isAscii c then some [c.toLower] else mapWide? c

def map? (name : List Char) : Option (List Char) := (name.mapM mapChar?).map List.flatten

end NoteBoard.Domain
