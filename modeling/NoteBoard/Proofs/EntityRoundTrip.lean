import NoteBoard.Html.Escape

/-! Escaping is undone by reading the entities back. A pass never meets an entity that an earlier one
wrote: only the first pass replaces a character that entities are made of. So the five passes come
to one, and what is written of a character is read as this character, whatever follows it. -/

namespace NoteBoard.Proofs.EntityRoundTrip
open Html

private theorem replaceEvery_append (special : Char) (entity front rest : List Char) :
    replaceEvery special entity (front ++ rest) =
      replaceEvery special entity front ++ replaceEvery special entity rest :=
  List.flatMap_append

private theorem replaceEvery_of_ne {special c : Char} (entity : List Char) (other : c ≠ special) :
    replaceEvery special entity [c] = [c] := by
  simp [replaceEvery, other]

theorem foldl_append (entries : List (Char × List Char)) (front rest : List Char) :
    entries.foldl (fun current entry => replaceEvery entry.1 entry.2 current) (front ++ rest) =
      entries.foldl (fun current entry => replaceEvery entry.1 entry.2 current) front ++
        entries.foldl (fun current entry => replaceEvery entry.1 entry.2 current) rest := by
  induction entries generalizing front rest with
  | nil => rfl
  | cons entry entries ih =>
    simp only [List.foldl_cons]
    rw [replaceEvery_append]
    apply ih

private theorem foldl_of_not_mem {entries : List (Char × List Char)} {c : Char}
    (plain : c ∉ entries.map Prod.fst) :
    entries.foldl (fun current entry => replaceEvery entry.1 entry.2 current) [c] = [c] := by
  induction entries with
  | nil => rfl
  | cons entry entries ih =>
    simp only [List.map_cons, List.mem_cons, not_or] at plain
    rw [List.foldl_cons, replaceEvery_of_ne entry.2 plain.1]
    exact ih plain.2

theorem escapeChar_of_not_mem {c : Char} (plain : c ∉ entities.map Prod.fst) :
    escapeChar c = [c] := by
  unfold escapeChar
  split
  next entity found =>
    obtain ⟨before, after, equal, _⟩ := List.lookup_eq_some_iff.mp found
    apply absurd _ plain
    rw [equal]
    simp
  next => rfl

private theorem escapeChars_singleton (c : Char) : escapeChars [c] = escapeChar c := by
  by_cases special : c ∈ entities.map Prod.fst
  · simp only [entities, List.map_cons, List.map_nil, List.mem_cons, List.not_mem_nil,
      or_false] at special
    rcases special with rfl | rfl | rfl | rfl | rfl
    all_goals decide
  · rw [escapeChar_of_not_mem special]
    exact foldl_of_not_mem special

theorem escapeChars_append (front rest : List Char) :
    escapeChars (front ++ rest) = escapeChars front ++ escapeChars rest :=
  foldl_append entities front rest

/-- Five passes over a text come to one. -/
theorem escapeChars_eq_flatMap (text : List Char) : escapeChars text = text.flatMap escapeChar := by
  induction text with
  | nil => rfl
  | cons c text ih =>
    have split := escapeChars_append [c] text
    rw [List.singleton_append, escapeChars_singleton, ih] at split
    rw [split, List.flatMap_cons]

theorem unescapeChars_of_ne {c : Char} (plain : c ≠ '&') (rest : List Char) :
    unescapeChars (c :: rest) = c :: unescapeChars rest := by
  rw [unescapeChars]
  all_goals
    intro tail ampersand
    exact absurd ampersand plain

private theorem unescapeChars_escapeChar (c : Char) (rest : List Char) :
    unescapeChars (escapeChar c ++ rest) = c :: unescapeChars rest := by
  by_cases special : c ∈ entities.map Prod.fst
  · simp only [entities, List.map_cons, List.map_nil, List.mem_cons, List.not_mem_nil,
      or_false] at special
    rcases special with rfl | rfl | rfl | rfl | rfl
    all_goals rfl
  · rw [escapeChar_of_not_mem special, List.singleton_append]
    apply unescapeChars_of_ne
    rintro rfl
    exact special (by decide)

theorem unescapeChars_escapeChars (text : List Char) : unescapeChars (escapeChars text) = text := by
  rw [escapeChars_eq_flatMap]
  induction text with
  | nil => rfl
  | cons c text ih => rw [List.flatMap_cons, unescapeChars_escapeChar, ih]

theorem unescapeChars_escape (text : String) :
    unescapeChars (escape text).toList = text.toList := by
  rw [escape, String.toList_ofList, unescapeChars_escapeChars]

theorem unescapeChars_of_not_mem {text : List Char} (plain : '&' ∉ text) :
    unescapeChars text = text := by
  induction text with
  | nil => rfl
  | cons c text ih =>
    rw [List.mem_cons, not_or] at plain
    rw [unescapeChars_of_ne (Ne.symm plain.1), ih plain.2]

end NoteBoard.Proofs.EntityRoundTrip
