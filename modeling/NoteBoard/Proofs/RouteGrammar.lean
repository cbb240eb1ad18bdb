import Mathlib.Data.List.Basic
import NoteBoard.Route.Table

/-! The grammar of paths: which path leads to which route. -/

namespace NoteBoard.Proofs.RouteGrammar

def Digits (text : List Char) : Prop := text ≠ [] ∧ ∀ c ∈ text, c.isDigit = true

def Spells (path : String) : Route → Prop
  | .index => path = "/"
  | .addNote => path = "/AddNote/"
  | .newNote => path = "/NewNote/"
  | .note action id => ∃ digits, Digits digits ∧ Text.digitsValue digits = id ∧
      id ≤ Note.largestId ∧ path = action.lead ++ String.ofList digits
  | .filter field needle => needle ≠ "" ∧ (∀ c ∈ needle.toList, isFilterChar c = true) ∧
      path = field.lead ++ needle

theorem find?_eq_some {entry : RouteEntry} {path : String} {answer : Except RouteError Route}
    (found : entry.find? path = some answer) :
    ∃ rest capture, path = entry.pattern.lead ++ String.ofList rest ∧
      entry.pattern.slot.capture? rest = some capture ∧ answer = entry.resolve capture.text := by
  obtain ⟨capture, captured, rfl⟩ := Option.map_eq_some_iff.mp found
  obtain ⟨rest, led, taken⟩ := Option.bind_eq_some_iff.mp captured
  refine ⟨rest, capture, ?_, taken, rfl⟩
  rw [← String.toList_inj, String.toList_append, String.toList_ofList]
  exact (List.isPrefixOf?_eq_some_iff_append_eq.mp led).symm

theorem fixed_find? {path other : String} {route : Route} {answer : Except RouteError Route}
    (found : (RouteEntry.fixed path route).find? other = some answer) :
    other = path ∧ answer = .ok route := by
  obtain ⟨rest, capture, written, taken, rfl⟩ := find?_eq_some found
  simp only [RouteEntry.fixed, Slot.capture?] at written taken
  split at taken
  next empty =>
    rw [List.isEmpty_iff.mp empty, String.ofList_nil, String.append_empty] at written
    exact ⟨written, rfl⟩
  next => cases taken

theorem note_find? {action : NoteAction} {path : String} {answer : Except RouteError Route}
    (found : (RouteEntry.note action.lead action).find? path = some answer) :
    ∃ digits, Digits digits ∧ path = action.lead ++ String.ofList digits ∧
      answer = (noteId (String.ofList digits)).map (.note action) := by
  obtain ⟨rest, capture, written, taken, rfl⟩ := find?_eq_some found
  simp only [RouteEntry.note, Slot.capture?] at written taken
  split at taken
  next digits =>
    cases taken
    simp only [Bool.and_eq_true, Bool.not_eq_true', List.isEmpty_eq_false_iff,
      List.all_eq_true] at digits
    exact ⟨rest, digits, written, rfl⟩
  next => cases taken

theorem filter_find? {field : SearchField} {path : String} {answer : Except RouteError Route}
    (found : (RouteEntry.filter field.lead field).find? path = some answer) :
    ∃ needle, needle ≠ "" ∧ (∀ c ∈ needle.toList, isFilterChar c = true) ∧
      path = field.lead ++ needle ∧ answer = .ok (.filter field needle) := by
  obtain ⟨rest, capture, written, taken, rfl⟩ := find?_eq_some found
  simp only [RouteEntry.filter, Slot.capture?] at written taken
  split at taken
  next allowed =>
    cases taken
    simp only [Bool.and_eq_true, Bool.not_eq_true', List.isEmpty_eq_false_iff,
      List.all_eq_true] at allowed
    refine ⟨String.ofList rest, ?_, ?_, written, rfl⟩
    · simpa [← String.toList_inj] using allowed.1
    · simpa using allowed.2
  next => cases taken

theorem spells_of_find {path : String} {route : Route}
    (found : RouteTable.board.find path = .ok route) : Spells path route := by
  unfold RouteTable.find at found
  cases decided : RouteTable.board.findSome? (·.find? path) with
  | none =>
    rw [decided] at found
    cases found
  | some answer =>
    rw [decided, Option.getD_some] at found
    subst found
    obtain ⟨entry, member, taken⟩ := List.exists_of_findSome?_eq_some decided
    simp only [RouteTable.board, List.mem_append, List.mem_map] at member
    rcases member with (fixed | ⟨action, _, rfl⟩) | ⟨field, _, rfl⟩
    · simp only [List.mem_cons, List.not_mem_nil, or_false] at fixed
      rcases fixed with rfl | rfl | rfl
      all_goals
        obtain ⟨rfl, same⟩ := fixed_find? taken
        cases same
        rfl
    · obtain ⟨digits, valid, rfl, same⟩ := note_find? taken
      unfold noteId at same
      rw [String.toList_ofList] at same
      dsimp only at same
      split at same
      next bounded =>
        cases same
        exact ⟨digits, valid, rfl, bounded, rfl⟩
      next => cases same
    · obtain ⟨needle, nonempty, allowed, rfl, same⟩ := filter_find? taken
      cases same
      exact ⟨nonempty, allowed, rfl⟩

end NoteBoard.Proofs.RouteGrammar
