/-! UTF-8 over lists of bytes. One pass cuts the bytes into characters and ill-formed pieces, a
piece being the longest start of a character that the next byte cannot continue; the strict and
the forgiving decoder only differ in what they make of such a piece. -/

namespace NoteBoard.Utf8

def byte (n : Nat) : UInt8 := UInt8.ofNat n

def tailByte (n : Nat) : UInt8 := byte (0x80 + n % 64)

def encodeChar (c : Char) : List UInt8 :=
  let n := c.toNat
  if n < 0x80 then [byte n]
  else if n < 0x800 then [byte (0xC0 + n / 64), tailByte n]
  else if n < 0x10000 then [byte (0xE0 + n / 4096), tailByte (n / 64), tailByte n]
  else [byte (0xF0 + n / 262144), tailByte (n / 4096), tailByte (n / 64), tailByte n]

def encode (text : List Char) : List UInt8 := text.flatMap encodeChar

/-- What the first byte of a character announces: its own bits, how many bytes are owed, and the
range of the next one. -/
structure Lead where
  bits : Nat
  owed : Nat
  low : Nat
  high : Nat

/-- The narrowed ranges keep out overlong forms, surrogates and numbers above 10FFFF. -/
def lead? (first : UInt8) : Option Lead :=
  let n := first.toNat
  if n < 0x80 then some ⟨n, 0, 0x80, 0xBF⟩
  else if n < 0xC2 then none
  else if n < 0xE0 then some ⟨n - 0xC0, 1, 0x80, 0xBF⟩
  else if n = 0xE0 then some ⟨0, 2, 0xA0, 0xBF⟩
  else if n = 0xED then some ⟨0xD, 2, 0x80, 0x9F⟩
  else if n < 0xF0 then some ⟨n - 0xE0, 2, 0x80, 0xBF⟩
  else if n = 0xF0 then some ⟨0, 3, 0x90, 0xBF⟩
  else if n < 0xF4 then some ⟨n - 0xF0, 3, 0x80, 0xBF⟩
  else if n = 0xF4 then some ⟨4, 3, 0x80, 0x8F⟩
  else none

/-- Collects the owed bytes. A byte out of range ends the piece and stays in the rest. -/
def collect : Nat → Nat → Nat → Nat → List UInt8 → Option Nat × List UInt8
  | 0, bits, _, _, bytes => (some bits, bytes)
  | _ + 1, _, _, _, [] => (none, [])
  | owed + 1, bits, low, high, next :: rest =>
    if low ≤ next.toNat && next.toNat ≤ high then
      collect owed (bits * 64 + (next.toNat - 0x80)) 0x80 0xBF rest
    else (none, next :: rest)

def piece (first : UInt8) (rest : List UInt8) : Option Char × List UInt8 :=
  match lead? first with
  | none => (none, rest)
  | some lead =>
    let (point, rest) := collect lead.owed lead.bits lead.low lead.high rest
    (point.map Char.ofNat, rest)

theorem collect_length_le (owed bits low high : Nat) (bytes : List UInt8) :
    (collect owed bits low high bytes).2.length ≤ bytes.length := by
  fun_induction collect owed bits low high bytes with
  | case1 => exact Nat.le_refl _
  | case2 => exact Nat.le_refl _
  | case3 _ _ _ _ _ _ _ ih => exact Nat.le_succ_of_le ih
  | case4 => exact Nat.le_refl _

theorem piece_length_le (first : UInt8) (rest : List UInt8) :
    (piece first rest).2.length ≤ rest.length := by
  unfold piece
  split
  · simp
  · exact collect_length_le ..

/-- The characters in order, `none` standing for each ill-formed piece. -/
def pieces : List UInt8 → List (Option Char)
  | [] => []
  | first :: rest => (piece first rest).1 :: pieces (piece first rest).2
termination_by bytes => bytes.length
decreasing_by
  have := piece_length_le first rest
  simp; omega

def replacement : Char := '\uFFFD'

def decodeLossy (bytes : List UInt8) : List Char := (pieces bytes).map (·.getD replacement)

def decode? (bytes : List UInt8) : Option (List Char) := (pieces bytes).mapM id

end NoteBoard.Utf8
