import NoteBoard.Proofs.Utf8RoundTrip

/-! Bytes that are read as a text are the bytes that are written for it: no character has a second
way of being written. The ranges that a first byte sets for the next one see to that, and with them
bytes are no text exactly if no text is written as them. -/

namespace NoteBoard.Proofs.Utf8Soundness
open Utf8 Utf8RoundTrip

/-- The first bytes of characters, by the number of bytes that a character has. -/
inductive Announces (first : Nat) : Lead → Prop where
  | one (ascii : first < 0x80) : Announces first ⟨first, 0, 0x80, 0xBF⟩
  | two {bits : Nat} (written : first = 0xC0 + bits) (atLeast : 2 ≤ bits) (atMost : bits < 32) :
      Announces first ⟨bits, 1, 0x80, 0xBF⟩
  | three {bits low high : Nat} (written : first = 0xE0 + bits) (atMost : bits < 16)
      (tail : 0x80 ≤ low ∧ high ≤ 0xBF) (overlong : bits = 0 → 0xA0 ≤ low)
      (surrogates : bits = 13 → high ≤ 0x9F) : Announces first ⟨bits, 2, low, high⟩
  | four {bits low high : Nat} (written : first = 0xF0 + bits) (atMost : bits ≤ 4)
      (tail : 0x80 ≤ low ∧ high ≤ 0xBF) (overlong : bits = 0 → 0x90 ≤ low)
      (beyond : bits = 4 → high ≤ 0x8F) : Announces first ⟨bits, 3, low, high⟩

private theorem announces_of_lead? {first : UInt8} {lead : Lead} (led : lead? first = some lead) :
    Announces first.toNat lead := by
  unfold lead? at led
  dsimp only at led
  split at led
  next ascii =>
    obtain rfl := Option.some.inj led
    exact .one ascii
  split at led
  next => contradiction
  split at led
  next =>
    obtain rfl := Option.some.inj led
    exact .two (by omega) (by omega) (by omega)
  iterate 3
    split at led
    next =>
      obtain rfl := Option.some.inj led
      exact .three (by omega) (by omega) (by omega) (by omega) (by omega)
  iterate 3
    split at led
    next =>
      obtain rfl := Option.some.inj led
      exact .four (by omega) (by omega) (by omega) (by omega) (by omega)
  contradiction

theorem eq_of_collect_zero {bits low high point : Nat} {bytes rest : List UInt8}
    (collected : collect 0 bits low high bytes = (some point, rest)) :
    bits = point ∧ bytes = rest := by
  cases collected
  exact ⟨rfl, rfl⟩

theorem next_of_collect_succ {owed bits low high point : Nat} {bytes rest : List UInt8}
    (collected : collect (owed + 1) bits low high bytes = (some point, rest)) :
    ∃ next tail, bytes = next :: tail ∧ low ≤ next.toNat ∧ next.toNat ≤ high ∧
      collect owed (bits * 64 + (next.toNat - 0x80)) 0x80 0xBF tail = (some point, rest) := by
  cases bytes with
  | nil => cases collected
  | cons next tail =>
    unfold collect at collected
    split at collected
    next within =>
      simp only [Bool.and_eq_true, decide_eq_true_eq] at within
      exact ⟨next, tail, rfl, within.1, within.2, collected⟩
    next => cases collected

theorem eq_byte {b : UInt8} {n : Nat} (same : b.toNat = n) : b = byte n := by
  subst same
  exact UInt8.ofNat_toNat.symm

theorem eq_tailByte {b : UInt8} {n : Nat} (same : b.toNat = 0x80 + n % 64) : b = tailByte n :=
  eq_byte same

theorem toNat_ofNat {n : Nat} (character : n < 0xD800 ∨ 0xDFFF < n ∧ n < 0x110000) :
    (Char.ofNat n).toNat = n := by
  have valid : n.isValidChar := character
  unfold Char.ofNat
  rw [dif_pos valid]
  rfl

def Tail (b : UInt8) : Prop := 0x80 ≤ b.toNat ∧ b.toNat ≤ 0xBF

section characters
variable {first second third fourth : UInt8} {bits : Nat}

theorem encodeChar_one (ascii : first.toNat < 0x80) :
    encodeChar (Char.ofNat first.toNat) = [first] := by
  have number := toNat_ofNat (show first.toNat < 0xD800 ∨ _ by omega)
  unfold encodeChar
  rw [number]
  dsimp only
  rw [if_pos ascii, ← eq_byte rfl]

private theorem encodeChar_two (written : first.toNat = 0xC0 + bits) (atLeast : 2 ≤ bits)
    (atMost : bits < 32) (tail : Tail second) :
    encodeChar (Char.ofNat (bits * 64 + (second.toNat - 0x80))) = [first, second] := by
  obtain ⟨low, high⟩ := tail
  let point := bits * 64 + (second.toNat - 0x80)
  have number : (Char.ofNat point).toNat = point := toNat_ofNat (by omega)
  have lead : first = byte (0xC0 + point / 64) := eq_byte (by omega)
  have last : second = tailByte point := eq_tailByte (by omega)
  change encodeChar (Char.ofNat point) = _
  unfold encodeChar
  rw [number, lead, last]
  dsimp only
  rw [if_neg (by omega), if_pos (by omega)]

private theorem encodeChar_three (written : first.toNat = 0xE0 + bits) (atMost : bits < 16)
    (next : Tail second) (overlong : bits = 0 → 0xA0 ≤ second.toNat)
    (surrogates : bits = 13 → second.toNat ≤ 0x9F) (tail : Tail third) :
    encodeChar (Char.ofNat ((bits * 64 + (second.toNat - 0x80)) * 64 + (third.toNat - 0x80))) =
      [first, second, third] := by
  obtain ⟨nextLow, nextHigh⟩ := next
  obtain ⟨low, high⟩ := tail
  let point := (bits * 64 + (second.toNat - 0x80)) * 64 + (third.toNat - 0x80)
  have number : (Char.ofNat point).toNat = point := toNat_ofNat (by omega)
  have lead : first = byte (0xE0 + point / 4096) := eq_byte (by omega)
  have middle : second = tailByte (point / 64) := eq_tailByte (by omega)
  have last : third = tailByte point := eq_tailByte (by omega)
  change encodeChar (Char.ofNat point) = _
  unfold encodeChar
  rw [number, lead, middle, last]
  dsimp only
  rw [if_neg (by omega), if_neg (by omega), if_pos (by omega)]

private theorem encodeChar_four (written : first.toNat = 0xF0 + bits) (atMost : bits ≤ 4)
    (next : Tail second) (overlong : bits = 0 → 0x90 ≤ second.toNat)
    (beyond : bits = 4 → second.toNat ≤ 0x8F) (middle : Tail third) (tail : Tail fourth) :
    encodeChar (Char.ofNat (((bits * 64 + (second.toNat - 0x80)) * 64 + (third.toNat - 0x80)) * 64 +
      (fourth.toNat - 0x80))) = [first, second, third, fourth] := by
  obtain ⟨nextLow, nextHigh⟩ := next
  obtain ⟨middleLow, middleHigh⟩ := middle
  obtain ⟨low, high⟩ := tail
  let point := ((bits * 64 + (second.toNat - 0x80)) * 64 + (third.toNat - 0x80)) * 64 +
    (fourth.toNat - 0x80)
  have number : (Char.ofNat point).toNat = point := toNat_ofNat (by omega)
  have lead : first = byte (0xF0 + point / 262144) := eq_byte (by omega)
  have second : second = tailByte (point / 4096) := eq_tailByte (by omega)
  have third : third = tailByte (point / 64) := eq_tailByte (by omega)
  have last : fourth = tailByte point := eq_tailByte (by omega)
  change encodeChar (Char.ofNat point) = _
  unfold encodeChar
  rw [number, lead, second, third, last]
  dsimp only
  rw [if_neg (by omega), if_neg (by omega), if_neg (by omega)]

end characters

private theorem collect_of_piece {first : UInt8} {rest tail : List UInt8} {c : Char}
    (read : piece first rest = (some c, tail)) :
    ∃ lead point, Announces first.toNat lead ∧
      collect lead.owed lead.bits lead.low lead.high rest = (some point, tail) ∧
      c = Char.ofNat point := by
  unfold piece at read
  split at read
  next => cases read
  next lead led =>
    cases collected : collect lead.owed lead.bits lead.low lead.high rest with
    | mk found after =>
      rw [collected] at read
      simp only [Prod.mk.injEq, Option.map_eq_some_iff] at read
      obtain ⟨⟨point, rfl, rfl⟩, rfl⟩ := read
      exact ⟨lead, point, announces_of_lead? led, collected, rfl⟩

/-- A character that is read has been written with the very bytes that it was read from. -/
private theorem bytes_of_piece {first : UInt8} {rest tail : List UInt8} {c : Char}
    (read : piece first rest = (some c, tail)) : encodeChar c ++ tail = first :: rest := by
  obtain ⟨lead, point, announced, collected, rfl⟩ := collect_of_piece read
  cases announced with
  | one ascii =>
    obtain ⟨rfl, rfl⟩ := eq_of_collect_zero collected
    rw [encodeChar_one ascii]
    rfl
  | two written atLeast atMost =>
    obtain ⟨second, rest, rfl, low, high, collected⟩ := next_of_collect_succ collected
    obtain ⟨rfl, rfl⟩ := eq_of_collect_zero collected
    rw [encodeChar_two written atLeast atMost ⟨low, high⟩]
    rfl
  | three written atMost within overlong surrogates =>
    obtain ⟨second, rest, rfl, low, high, collected⟩ := next_of_collect_succ collected
    obtain ⟨third, rest, rfl, thirdLow, thirdHigh, collected⟩ := next_of_collect_succ collected
    obtain ⟨rfl, rfl⟩ := eq_of_collect_zero collected
    dsimp only at low high
    have next : Tail second := ⟨by omega, by omega⟩
    rw [encodeChar_three written atMost next (by omega) (by omega) ⟨thirdLow, thirdHigh⟩]
    rfl
  | four written atMost within overlong beyond =>
    obtain ⟨second, rest, rfl, low, high, collected⟩ := next_of_collect_succ collected
    obtain ⟨third, rest, rfl, thirdLow, thirdHigh, collected⟩ := next_of_collect_succ collected
    obtain ⟨fourth, rest, rfl, fourthLow, fourthHigh, collected⟩ := next_of_collect_succ collected
    obtain ⟨rfl, rfl⟩ := eq_of_collect_zero collected
    dsimp only at low high
    have next : Tail second := ⟨by omega, by omega⟩
    rw [encodeChar_four written atMost next (by omega) (by omega) ⟨thirdLow, thirdHigh⟩
      ⟨fourthLow, fourthHigh⟩]
    rfl

private theorem encode_of_decode? {bytes : List UInt8} {text : List Char}
    (read : decode? bytes = some text) : encode text = bytes := by
  unfold decode? at read
  fun_induction pieces bytes generalizing text with
  | case1 =>
    cases read
    rfl
  | case2 first rest ih =>
    rw [List.mapM_cons] at read
    obtain ⟨c, head, read⟩ := Option.bind_eq_some_iff.mp read
    obtain ⟨text, later, same⟩ := Option.bind_eq_some_iff.mp read
    cases same
    have front : encodeChar c ++ (piece first rest).2 = first :: rest :=
      bytes_of_piece (Prod.ext head rfl)
    rw [encode, List.flatMap_cons]
    change encodeChar c ++ encode text = _
    rw [ih later, front]

/-- Reading and writing a text are inverse to each other. -/
theorem decode?_eq_some_iff {bytes : List UInt8} {text : List Char} :
    decode? bytes = some text ↔ encode text = bytes := by
  constructor
  · exact encode_of_decode?
  · rintro rfl
    exact decode?_encode text

end NoteBoard.Proofs.Utf8Soundness
