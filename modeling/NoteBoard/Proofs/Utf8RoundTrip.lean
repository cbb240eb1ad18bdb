import Mathlib.Data.List.Basic
import NoteBoard.Text.Utf8

/-! Well-formed bytes are read back as the characters they were written for, so no two texts have
the same bytes. -/

namespace NoteBoard.Proofs.Utf8RoundTrip
open Utf8

theorem byte_toNat {n : Nat} (small : n < 256) : (byte n).toNat = n := by
  simp only [byte, UInt8.toNat_ofNat']
  omega

theorem tailByte_toNat (n : Nat) : (tailByte n).toNat = 0x80 + n % 64 :=
  byte_toNat (by omega)

theorem char_ranges (c : Char) :
    c.toNat < 0xD800 ∨ 0xDFFF < c.toNat ∧ c.toNat < 0x110000 := c.valid

theorem collect_tail (owed bits low high n : Nat) (rest : List UInt8)
    (atLeast : low ≤ 0x80 + n % 64) (atMost : 0x80 + n % 64 ≤ high) :
    collect (owed + 1) bits low high (tailByte n :: rest)
      = collect owed (bits * 64 + n % 64) 0x80 0xBF rest := by
  simp [collect, tailByte_toNat, atLeast, atMost]

private theorem lead_ascii {n : Nat} (small : n < 0x80) :
    lead? (byte n) = some ⟨n, 0, 0x80, 0xBF⟩ := by
  simp [lead?, byte_toNat (show n < 256 by omega), small]

private theorem lead_two {n : Nat} (large : 0x80 ≤ n) (small : n < 0x800) :
    lead? (byte (0xC0 + n / 64)) = some ⟨n / 64, 1, 0x80, 0xBF⟩ := by
  have value := byte_toNat (show 0xC0 + n / 64 < 256 by omega)
  unfold lead?
  simp only [value]
  rw [if_neg (by omega), if_neg (by omega), if_pos (by omega)]
  simp

/-- The first of three bytes narrows the range of the second so that it still holds. -/
private theorem lead_three {n : Nat} (large : 0x800 ≤ n) (small : n < 0x10000)
    (character : n < 0xD800 ∨ 0xDFFF < n) :
    ∃ low high, lead? (byte (0xE0 + n / 4096)) = some ⟨n / 4096, 2, low, high⟩ ∧
      low ≤ 0x80 + n / 64 % 64 ∧ 0x80 + n / 64 % 64 ≤ high := by
  have value := byte_toNat (show 0xE0 + n / 4096 < 256 by omega)
  unfold lead?
  simp only [value]
  rw [if_neg (by omega), if_neg (by omega), if_neg (by omega)]
  by_cases first : n / 4096 = 0
  · exact ⟨0xA0, 0xBF, by simp [first], by omega, by omega⟩
  rw [if_neg (by omega)]
  by_cases surrogates : n / 4096 = 0xD
  · exact ⟨0x80, 0x9F, by simp [surrogates], by omega, by omega⟩
  rw [if_neg (by omega), if_pos (by omega)]
  exact ⟨0x80, 0xBF, by simp, by omega, by omega⟩

private theorem lead_four {n : Nat} (large : 0x10000 ≤ n) (small : n < 0x110000) :
    ∃ low high, lead? (byte (0xF0 + n / 262144)) = some ⟨n / 262144, 3, low, high⟩ ∧
      low ≤ 0x80 + n / 4096 % 64 ∧ 0x80 + n / 4096 % 64 ≤ high := by
  have value := byte_toNat (show 0xF0 + n / 262144 < 256 by omega)
  unfold lead?
  simp only [value]
  rw [if_neg (by omega), if_neg (by omega), if_neg (by omega), if_neg (by omega),
    if_neg (by omega), if_neg (by omega)]
  by_cases first : n / 262144 = 0
  · exact ⟨0x90, 0xBF, by simp [first], by omega, by omega⟩
  rw [if_neg (by omega)]
  by_cases last : n / 262144 = 4
  · exact ⟨0x80, 0x8F, by simp [last], by omega, by omega⟩
  rw [if_pos (by omega)]
  exact ⟨0x80, 0xBF, by simp, by omega, by omega⟩

private theorem piece_encodeChar (c : Char) (rest : List UInt8) :
    ∃ first tail, encodeChar c = first :: tail ∧ piece first (tail ++ rest) = (some c, rest) := by
  have valid := char_ranges c
  have back : ∀ point, point = c.toNat → Char.ofNat point = c := by
    rintro _ rfl
    exact Char.ofNat_toNat c
  unfold encodeChar
  dsimp only
  split
  next small =>
    refine ⟨_, _, rfl, ?_⟩
    simp [piece, lead_ascii small, collect]
  split
  next large small =>
    refine ⟨_, _, rfl, ?_⟩
    simp only [piece, lead_two (by omega) small, List.cons_append, List.nil_append]
    rw [collect_tail _ _ _ _ _ _ (by omega) (by omega)]
    simp only [collect, Option.map_some]
    rw [back _ (by omega)]
  split
  next large small =>
    obtain ⟨low, high, lead, atLeast, atMost⟩ := lead_three (by omega) small (by omega)
    refine ⟨_, _, rfl, ?_⟩
    simp only [piece, lead, List.cons_append, List.nil_append]
    rw [collect_tail _ _ _ _ _ _ atLeast atMost, collect_tail _ _ _ _ _ _ (by omega) (by omega)]
    simp only [collect, Option.map_some]
    rw [back _ (by omega)]
  next large =>
    obtain ⟨low, high, lead, atLeast, atMost⟩ := lead_four (n := c.toNat) (by omega) (by omega)
    refine ⟨_, _, rfl, ?_⟩
    simp only [piece, lead, List.cons_append, List.nil_append]
    rw [collect_tail _ _ _ _ _ _ atLeast atMost, collect_tail _ _ _ _ _ _ (by omega) (by omega),
      collect_tail _ _ _ _ _ _ (by omega) (by omega)]
    simp only [collect, Option.map_some]
    rw [back _ (by omega)]

theorem pieces_encode (text : List Char) : pieces (encode text) = text.map some := by
  induction text with
  | nil => simp [encode, pieces]
  | cons c text ih =>
    obtain ⟨first, tail, written, read⟩ := piece_encodeChar c (encode text)
    have bytes : encode (c :: text) = first :: (tail ++ encode text) := by
      rw [encode, List.flatMap_cons, written]
      rfl
    rw [bytes, pieces, read, ih, List.map_cons]

theorem decode?_encode (text : List Char) : decode? (encode text) = some text := by
  rw [decode?, pieces_encode]
  induction text with
  | nil => rfl
  | cons c text ih =>
    rw [List.map_cons, List.mapM_cons, ih]
    rfl

theorem decodeLossy_encode (text : List Char) : decodeLossy (encode text) = text := by
  rw [decodeLossy, pieces_encode, List.map_map]
  exact List.map_id text

theorem high_byte {n : Nat} (large : 0x80 ≤ n) (small : n < 256) : 0x80 ≤ (byte n).toNat := by
  rwa [byte_toNat small]

theorem high_tailByte (n : Nat) : 0x80 ≤ (tailByte n).toNat := by
  rw [tailByte_toNat]
  exact Nat.le_add_right _ _

theorem high_of_mem_encodeChar {c : Char} {b : UInt8} (large : 0x80 ≤ c.toNat)
    (member : b ∈ encodeChar c) : 0x80 ≤ b.toNat := by
  have ranges := char_ranges c
  unfold encodeChar at member
  dsimp only at member
  split at member
  next small => omega
  split at member
  next =>
    simp only [List.mem_cons, List.not_mem_nil, or_false] at member
    rcases member with rfl | rfl
    · exact high_byte (by omega) (by omega)
    · exact high_tailByte _
  split at member
  next =>
    simp only [List.mem_cons, List.not_mem_nil, or_false] at member
    rcases member with rfl | rfl | rfl
    · exact high_byte (by omega) (by omega)
    all_goals exact high_tailByte _
  next =>
    simp only [List.mem_cons, List.not_mem_nil, or_false] at member
    rcases member with rfl | rfl | rfl | rfl
    · exact high_byte (by omega) (by omega)
    all_goals exact high_tailByte _

/-- A byte of the ASCII range stands for its own character and for no part of another. -/
theorem toNat_of_mem_encodeChar {c : Char} {b : UInt8} (member : b ∈ encodeChar c)
    (ascii : b.toNat < 0x80) : c.toNat = b.toNat := by
  by_cases large : 0x80 ≤ c.toNat
  · exact absurd (high_of_mem_encodeChar large member) (Nat.not_le_of_lt ascii)
  · have small : c.toNat < 0x80 := Nat.lt_of_not_le large
    have only : encodeChar c = [byte c.toNat] := if_pos small
    rw [only] at member
    rw [List.mem_singleton.mp member, byte_toNat (by omega)]

theorem encode_injective : Function.Injective encode := by
  intro first second same
  have pieces := congrArg Utf8.pieces same
  rw [pieces_encode, pieces_encode] at pieces
  exact List.map_injective_iff.mpr (fun _ _ => Option.some.inj) pieces

end NoteBoard.Proofs.Utf8RoundTrip
