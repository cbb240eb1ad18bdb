import Mathlib.Tactic.ByContra

/-! ASCII letters and digits by their code points. -/

namespace NoteBoard.Proofs.AsciiLetters

private theorem ascii_of_le {c : Char} (last : Char) (ascii : last.toNat < 128)
    (le : c.val ≤ last.val) : c.toNat < 128 :=
  Nat.lt_of_le_of_lt (UInt32.le_iff_toNat_le.mp le) ascii

theorem ascii_of_isUpper {c : Char} (upper : c.isUpper = true) : c.toNat < 128 :=
  ascii_of_le 'Z' (by decide) (of_decide_eq_true upper).2

theorem ascii_of_isAlphanum {c : Char} (fits : c.isAlphanum = true) : c.toNat < 128 := by
  rcases Bool.or_eq_true_iff.mp fits with letter | digit
  · rcases Bool.or_eq_true_iff.mp letter with upper | lower
    · exact ascii_of_isUpper upper
    · exact ascii_of_le 'z' (by decide) (of_decide_eq_true (Bool.and_eq_true_iff.mp lower).2)
  · exact ascii_of_le '9' (by decide) (of_decide_eq_true (Bool.and_eq_true_iff.mp digit).2)

theorem ascii_toLower {c : Char} (ascii : c.toNat < 128) : c.toLower.toNat < 128 := by
  have each : ∀ n < 128, (Char.ofNat n).toLower.toNat < 128 := by decide +kernel
  have lower := each c.toNat ascii
  rwa [Char.ofNat_toNat] at lower

theorem toLower_of_not_isUpper {c : Char} (other : c.isUpper = false) : c.toLower = c :=
  dif_neg (of_decide_eq_false other)

private theorem isAlpha_toLower_of_isUpper {c : Char} (upper : c.isUpper = true) :
    c.toLower.isAlpha = true := by
  have each : ∀ n < 128, (Char.ofNat n).isUpper = true → (Char.ofNat n).toLower.isAlpha = true := by
    decide +kernel
  have letter := each c.toNat (ascii_of_isUpper upper)
  rw [Char.ofNat_toNat] at letter
  exact letter upper

theorem isAlpha_of_toLower {c letter : Char} (lower : c.toLower = letter)
    (isLetter : letter.isAlpha = true) : c.isAlpha = true := by
  cases upper : c.isUpper with
  | true => exact Bool.or_eq_true_iff.mpr (Or.inl upper)
  | false => rwa [← lower, toLower_of_not_isUpper upper] at isLetter

theorem eq_of_toLower {c sign : Char} (lower : c.toLower = sign) (plain : sign.isAlpha = false) :
    c = sign := by
  cases upper : c.isUpper with
  | false => rw [← lower, toLower_of_not_isUpper upper]
  | true =>
    have letter := isAlpha_toLower_of_isUpper upper
    rw [lower, plain] at letter
    cases letter

theorem toLower_of_not_ascii {c : Char} (large : ¬ c.toNat < 128) : c.toLower = c := by
  apply toLower_of_not_isUpper
  rw [Bool.eq_false_iff]
  intro upper
  exact large (ascii_of_isUpper upper)

theorem ascii_toLower_iff (c : Char) : c.toLower.toNat < 128 ↔ c.toNat < 128 := by
  refine ⟨fun lower => ?_, ascii_toLower⟩
  by_contra large
  rw [toLower_of_not_ascii large] at lower
  exact large lower

section alike
variable {first second : Char} (alike : first.toLower = second.toLower)
include alike

theorem ascii_of_other_case (different : first ≠ second) :
    first.toNat < 128 ∧ second.toNat < 128 := by
  have both : first.toNat < 128 ↔ second.toNat < 128 := by
    rw [← ascii_toLower_iff first, alike, ascii_toLower_iff]
  by_cases ascii : first.toNat < 128
  · exact ⟨ascii, both.mp ascii⟩
  · rw [toLower_of_not_ascii ascii, toLower_of_not_ascii (mt both.mpr ascii)] at alike
    exact absurd alike different

theorem eq_sign_iff {sign : Char} (plain : sign.isAlpha = false) :
    first = sign ↔ second = sign := by
  have upper : sign.isUpper = false := (Bool.or_eq_false_iff.mp plain).1
  have own : sign.toLower = sign := toLower_of_not_isUpper upper
  constructor
  · rintro rfl
    exact eq_of_toLower (alike.symm.trans own) plain
  · rintro rfl
    exact eq_of_toLower (alike.trans own) plain

end alike

end NoteBoard.Proofs.AsciiLetters
