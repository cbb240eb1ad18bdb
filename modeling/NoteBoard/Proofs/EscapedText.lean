import NoteBoard.Proofs.PageStructure

/-! Escaping as a code. The five passes write every character by itself, so a text is escaped part by
part, and what was written tells the text. -/

namespace NoteBoard.Proofs.EscapedText
open EntityRoundTrip Html PageStructure

/-- What a single pass writes for a character. -/
def spelling : Char → String
  | '&' => "&amp;"
  | '<' => "&lt;"
  | '>' => "&gt;"
  | '"' => "&quot;"
  | '\'' => "&#x27;"
  | c => String.singleton c

private theorem spelling_toList (c : Char) : (spelling c).toList = escapeChar c := by
  by_cases special : c ∈ entities.map Prod.fst
  · simp only [entities, List.map_cons, List.map_nil, List.mem_cons, List.not_mem_nil,
      or_false] at special
    rcases special with rfl | rfl | rfl | rfl | rfl
    all_goals rfl
  · rw [escapeChar_of_not_mem special]
    unfold spelling
    split
    case h_6 => exact String.toList_singleton c
    all_goals exact absurd (by decide) special

private theorem escape_eq_join (text : String) :
    escape text = String.join (text.toList.map spelling) := by
  apply String.toList_injective
  rw [escape, String.toList_ofList, escapeChars_eq_flatMap, String.toList_join, List.flatMap_map]
  congr 1
  funext c
  exact (spelling_toList c).symm

private theorem escape_append (front rest : String) :
    escape (front ++ rest) = escape front ++ escape rest := by
  apply String.toList_injective
  simp only [escape, String.toList_append, String.toList_ofList, escapeChars_append]

theorem unescape_escape (text : String) : unescape (escape text) = text := by
  rw [unescape, unescapeChars_escape, String.ofList_toList]

private theorem structural_not_mem_escape (text : String) {c : Char} (listed : c ∈ structural) :
    c ∉ (escape text).toList := by
  intro member
  have empty : skeleton (escape text) = [] := skeleton_escape text
  have kept : c ∈ skeleton (escape text) := List.mem_filter.mpr ⟨member, decide_eq_true listed⟩
  rw [empty] at kept
  cases kept

/-- Escaping by five passes over the whole text is escaping by one pass over its characters. What
comes out has no character that makes tags or attributes and no ampersand but those that start an
entity; undoing the entities gives the text back, and parts may be escaped on their own. -/
theorem escape_spells_text (text : String) :
    escape text = String.join (text.toList.map spelling) ∧
    (∀ c ∈ ['<', '>', '"', '\''], c ∉ (escape text).toList) ∧
    EntitiesOnly (escape text).toList ∧
    unescape (escape text) = text ∧
    Function.Injective escape ∧
    ∀ rest, escape (text ++ rest) = escape text ++ escape rest := by
  refine ⟨escape_eq_join text, ?_, entitiesOnly_escape text, unescape_escape text, ?_, ?_⟩
  · intro c listed
    exact structural_not_mem_escape text listed
  · exact Function.LeftInverse.injective unescape_escape
  · intro rest
    exact escape_append text rest

end NoteBoard.Proofs.EscapedText
