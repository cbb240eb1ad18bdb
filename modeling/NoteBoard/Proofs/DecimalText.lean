import NoteBoard.Page.Basic
import NoteBoard.Proofs.PathGrammar
import NoteBoard.Proofs.PercentRoundTrip

/-! Numbers read back from the digits that write them: the id of a token in a field of a form and the
id of a note in a path. -/

namespace NoteBoard.Proofs.DecimalText
open PathGrammar RouteGrammar

theorem digits_toDigits (n : Nat) : Digits (Nat.toDigits 10 n) :=
  ⟨Nat.toDigits_ne_nil, fun _ member => Nat.isDigit_of_mem_toDigits (by decide) (by decide) member⟩

theorem digitsValue_toDigits (n : Nat) : Text.digitsValue (Nat.toDigits 10 n) = n :=
  Nat.ofDigitChars_toDigits (by decide) (by decide)

private theorem unsigned?_of_digits {largest : Nat} {digits : List Char} (written : Digits digits)
    (within : Text.digitsValue digits ≤ largest) :
    Text.unsigned? largest digits = some (Text.digitsValue digits) := by
  obtain ⟨nonempty, numeric⟩ := written
  cases digits with
  | nil => exact absurd rfl nonempty
  | cons first rest =>
    have unsigned : first ≠ '+' := by
      rintro rfl
      exact absurd (numeric '+' List.mem_cons_self) (by decide)
    unfold Text.unsigned?
    split
    next equal =>
      cases equal
      exact absurd rfl unsigned
    next =>
      simp only [List.isEmpty_cons, List.all_eq_true.mpr numeric, Bool.not_true, Bool.or_self,
        Bool.false_eq_true, if_false, if_pos within]

theorem unsigned?_toString {largest n : Nat} (within : n ≤ largest) :
    Text.unsigned? largest (toString n).toList = some n := by
  have value := digitsValue_toDigits n
  rw [Nat.toString_eq_ofList_toDigits, String.toList_ofList,
    unsigned?_of_digits (digits_toDigits n) (by rwa [value]), value]

theorem path_natCast (action : NoteAction) (n : Nat) :
    action.path n = action.lead ++ String.ofList (Nat.toDigits 10 n) := rfl

/-- The path of a note leads to it: no sign and no bound comes between. -/
theorem find_path (action : NoteAction) {id : Int} (natural : 0 ≤ id) (within : id ≤ Note.largestId) :
    RouteTable.board.find (action.path id) = .ok (.note action id) := by
  obtain ⟨n, rfl⟩ := Int.eq_ofNat_of_zero_le natural
  have value : PathGrammar.value (Nat.toDigits 10 n) = n := by
    rw [← digitsValue_eq_value, digitsValue_toDigits]
  have bound : n ≤ 2 ^ 63 - 1 := by
    unfold Note.largestId at within
    omega
  have leads : Leads (action.path n) (.ok (.note action n)) := by
    have note := Leads.note (mem_noteLeads action) (digits_toDigits n) (by rwa [value])
    rwa [value] at note
  exact find_of_leads leads

theorem decodePath_path (action : NoteAction) {id : Int} (natural : 0 ≤ id) :
    Request.decodePath (action.path id) = action.path id := by
  obtain ⟨n, rfl⟩ := Int.eq_ofNat_of_zero_le natural
  refine PercentRoundTrip.decodePath_of_plain ?_
  rw [path_natCast, String.toList_append, String.toList_ofList, List.mem_append]
  rintro (inLead | inDigits)
  · exact absurd inLead (by cases action <;> decide)
  · exact absurd ((digits_toDigits n).2 '%' inDigits) (by decide)

end NoteBoard.Proofs.DecimalText
