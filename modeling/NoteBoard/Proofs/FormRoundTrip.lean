import NoteBoard.Form
import NoteBoard.Proofs.PercentRoundTrip

/-! A form that is written is read back field by field: neither a separator nor a plus sign of its own
occurs in what is written of a name or a value, and each byte is read as itself. -/

namespace NoteBoard.Proofs.FormRoundTrip
open Form PercentRoundTrip

def written (b : UInt8) : List UInt8 :=
  if b = space then [plus] else if isKept b then [b] else Percent.encodeByte b

def spaced (bytes : List UInt8) : List UInt8 := bytes.map fun b => if b = plus then space else b

private theorem spaced_append (front rest : List UInt8) :
    spaced (front ++ rest) = spaced front ++ spaced rest := List.map_append

theorem ne_of_isKept {b mark : UInt8} (kept : isKept b = true) (barred : isKept mark = false) :
    b ≠ mark := by
  rintro rfl
  rw [kept] at barred
  cases barred

theorem isKept_hexDigit : ∀ n < 16, isKept (Percent.hexDigit n) = true := by decide

theorem ne_of_mem_encodeByte {b value mark : UInt8} (member : b ∈ Percent.encodeByte value)
    (barred : isKept mark = false) (other : Percent.sign ≠ mark) : b ≠ mark := by
  have bound := value.toNat_lt
  simp only [Percent.encodeByte, List.mem_cons, List.not_mem_nil, or_false] at member
  rcases member with rfl | rfl | rfl
  · exact other
  · exact ne_of_isKept (isKept_hexDigit _ (by omega)) barred
  · exact ne_of_isKept (isKept_hexDigit _ (by omega)) barred

theorem not_mem_encode {mark : UInt8} (barred : isKept mark = false) (other : Percent.sign ≠ mark)
    (apart : plus ≠ mark) (text : String) : mark ∉ encode text := by
  intro member
  obtain ⟨value, _, inside⟩ := List.mem_flatMap.mp member
  split at inside
  next => exact apart (List.mem_singleton.mp inside).symm
  next =>
    split at inside
    next kept => exact ne_of_isKept kept barred (List.mem_singleton.mp inside).symm
    next => exact ne_of_mem_encodeByte inside barred other rfl

private theorem spaced_encodeByte (value : UInt8) :
    spaced (Percent.encodeByte value) = Percent.encodeByte value := by
  refine (List.map_congr_left fun b member => ?_).trans (List.map_id _)
  exact if_neg (ne_of_mem_encodeByte member (by decide) (by decide))

private theorem decode_written (value : UInt8) (rest : List UInt8) :
    Percent.decode (spaced (written value) ++ rest) = value :: Percent.decode rest := by
  unfold written
  split
  next gap =>
    subst gap
    exact decode_cons_of_ne (by decide) rest
  next =>
    split
    next kept =>
      have plain : value ≠ plus := ne_of_isKept kept (by decide)
      have same : spaced [value] = [value] := by simp [spaced, plain]
      rw [same]
      exact decode_cons_of_ne (ne_of_isKept kept (by decide)) rest
    next =>
      rw [spaced_encodeByte]
      exact decode_encodeByte value rest

private theorem decode_spaced (bytes : List UInt8) :
    Percent.decode (spaced (bytes.flatMap written)) = bytes := by
  induction bytes with
  | nil => rfl
  | cons value bytes ih => rw [List.flatMap_cons, spaced_append, decode_written, ih]

theorem decode_encode (text : String) : decode (encode text) = text := by
  have bytes : Percent.decode ((encode text).map fun b => if b = plus then space else b) =
      Utf8.encode text.toList := decode_spaced (Utf8.encode text.toList)
  rw [decode, bytes, Utf8RoundTrip.decodeLossy_encode, String.ofList_toList]

private theorem equals_not_mem_encode (text : String) : equals ∉ encode text :=
  not_mem_encode (by decide) (by decide) (by decide) text

private theorem ampersand_not_mem_encodePair (pair : String × String) :
    ampersand ∉ encodePair pair := by
  have outside (text : String) : ampersand ∉ encode text :=
    not_mem_encode (by decide) (by decide) (by decide) text
  rw [encodePair, List.mem_append, List.mem_cons]
  rintro (name | same | value)
  · exact outside _ name
  · exact absurd same (by decide)
  · exact outside _ value

private theorem decodePair_encodePair (pair : String × String) :
    decodePair (encodePair pair) = pair := by
  have others : ∀ b ∈ encode pair.1, decide (b ≠ equals) = true := by
    intro b member
    rw [decide_eq_true_iff]
    rintro rfl
    exact equals_not_mem_encode pair.1 member
  have stops : decide (equals ≠ equals) = false := by decide
  have name : (encodePair pair).takeWhile (· ≠ equals) = encode pair.1 := by
    rw [encodePair, List.takeWhile_append_of_pos others, List.takeWhile_cons, stops]
    simp
  have value : (encodePair pair).dropWhile (· ≠ equals) = equals :: encode pair.2 := by
    rw [encodePair, List.dropWhile_append_of_pos others, List.dropWhile_cons, stops]
    simp
  rw [decodePair, name, value, List.drop_succ_cons, List.drop_zero, decode_encode, decode_encode]

section split
variable {α : Type} [DecidableEq α] {separator : α}

private theorem split_ne_nil (separator : α) (whole : List α) :
    Text.split separator whole ≠ [] := by
  cases whole with
  | nil => simp [Text.split]
  | cons first rest =>
    unfold Text.split
    split
    · simp
    · split <;> simp

theorem split_join (left right : List α) : Text.split separator (left ++ separator :: right) =
    Text.split separator left ++ Text.split separator right := by
  induction left with
  | nil => simp [Text.split]
  | cons first left ih =>
    obtain ⟨part, parts, cut⟩ := List.exists_cons_of_ne_nil (split_ne_nil separator left)
    by_cases same : first = separator
    · simp [Text.split, same, ih]
    · simp [Text.split, same, ih, cut]

theorem split_of_not_mem {part : List α} (whole : separator ∉ part) :
    Text.split separator part = [part] := by
  induction part with
  | nil => rfl
  | cons first part ih =>
    rw [List.mem_cons, not_or] at whole
    rw [Text.split, if_neg (Ne.symm whole.1), ih whole.2]

private theorem split_intercalate {first : List α} {parts : List (List α)}
    (whole : ∀ part ∈ first :: parts, separator ∉ part) :
    Text.split separator ([separator].intercalate (first :: parts)) = first :: parts := by
  induction parts generalizing first with
  | nil =>
    rw [List.intercalate_singleton]
    exact split_of_not_mem (whole first (by simp))
  | cons second parts ih =>
    obtain ⟨here, rest⟩ := List.forall_mem_cons.mp whole
    rw [List.intercalate_cons_cons, List.append_assoc, List.singleton_append, split_join,
      split_of_not_mem here, ih rest]
    rfl

end split

theorem decodePairs_encodePairs (pairs : List (String × String)) :
    decodePairs (encodePairs pairs) = pairs := by
  cases pairs with
  | nil => rfl
  | cons first pairs =>
    have whole : ∀ part ∈ encodePair first :: pairs.map encodePair, ampersand ∉ part := by
      intro part member
      obtain ⟨pair, _, rfl⟩ := List.mem_map.mp (List.map_cons ▸ member)
      exact ampersand_not_mem_encodePair pair
    have filled : ∀ part ∈ (first :: pairs).map encodePair, (! part.isEmpty) = true := by
      intro part member
      obtain ⟨pair, _, rfl⟩ := List.mem_map.mp member
      simp [encodePair]
    rw [decodePairs, encodePairs, List.map_cons, split_intercalate whole, ← List.map_cons,
      List.filter_eq_self.mpr filled, List.map_map]
    refine (List.map_congr_left fun pair _ => ?_).trans (List.map_id _)
    exact decodePair_encodePair pair

theorem decodePairs_no_query :
    decodePairs (Utf8.encode ((none : Option String).getD "").toList) = [] := by
  simp [decodePairs, Utf8.encode, Text.split]

theorem parse_encodePairs (pairs : List (String × String)) :
    Form.parse none (encodePairs pairs) = ⟨pairs⟩ := by
  rw [Form.parse, decodePairs_encodePairs, decodePairs_no_query, List.append_nil]

end NoteBoard.Proofs.FormRoundTrip
