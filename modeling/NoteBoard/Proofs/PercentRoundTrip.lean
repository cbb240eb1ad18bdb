import NoteBoard.Http.Request
import NoteBoard.Proofs.Utf8RoundTrip

/-! What percent coding leaves alone. Bytes other than the percent sign are read as themselves, and an
encoded byte is read as the byte it was written for. -/

namespace NoteBoard.Proofs.PercentRoundTrip
open Percent Utf8RoundTrip

theorem decode_cons_of_ne {first : UInt8} (plain : first ≠ sign) (rest : List UInt8) :
    decode (first :: rest) = first :: decode rest := by
  cases rest with
  | nil => rfl
  | cons high rest =>
    cases rest with
    | nil => rfl
    | cons low rest =>
      rw [decode]
      simp [plain]

theorem decode_of_plain {bytes : List UInt8} (plain : sign ∉ bytes) : decode bytes = bytes := by
  induction bytes with
  | nil => rfl
  | cons first rest ih =>
    rw [List.mem_cons, not_or] at plain
    rw [decode_cons_of_ne (Ne.symm plain.1), ih plain.2]

theorem hexValue?_hexDigit : ∀ n < 16, hexValue? (hexDigit n) = some n := by decide

private theorem pair?_hexDigits (value : UInt8) :
    pair? (hexDigit (value.toNat / 16)) (hexDigit (value.toNat % 16)) = some value := by
  have bound := value.toNat_lt
  have whole : 16 * (value.toNat / 16) + value.toNat % 16 = value.toNat := by omega
  unfold pair?
  rw [hexValue?_hexDigit _ (by omega), hexValue?_hexDigit _ (by omega)]
  simp only [Option.bind_eq_bind, Option.bind_some, whole]
  exact congrArg some UInt8.ofNat_toNat

theorem decode_encodeByte (value : UInt8) (rest : List UInt8) :
    decode (encodeByte value ++ rest) = value :: decode rest := by
  rw [encodeByte, List.cons_append, List.cons_append, List.cons_append, decode]
  simp [pair?_hexDigits]

theorem sign_not_mem_encode {text : List Char} (plain : '%' ∉ text) :
    sign ∉ Utf8.encode text := by
  intro member
  obtain ⟨c, inside, written⟩ := List.mem_flatMap.mp member
  have number : c.toNat = '%'.toNat := toNat_of_mem_encodeChar written (by decide)
  exact plain (Char.toNat_inj.mp number ▸ inside)

theorem decodePath_of_plain {path : String} (plain : '%' ∉ path.toList) :
    Request.decodePath path = path := by
  unfold Request.decodePath
  rw [decode_of_plain (sign_not_mem_encode plain), decode?_encode]
  exact String.ofList_toList

end NoteBoard.Proofs.PercentRoundTrip
