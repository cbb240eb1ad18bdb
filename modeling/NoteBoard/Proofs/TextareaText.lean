import NoteBoard.Proofs.FormPage
import NoteBoard.Proofs.FormReturn
import NoteBoard.Proofs.PerformEffects

/-! The text that a browser has for the textarea of a form. The template leaves no newline of its own
after the start tag, so the one that a browser drops there is the first character of the note. A
newline is a line feed here. That browsers read carriage returns as line feeds is left aside. -/

namespace NoteBoard.Proofs.TextareaText
open EntityRoundTrip FormPage Html NoteTable

/-- The text of the textarea on a page as a browser reads it. -/
def shownText? (page : String) : Option String :=
  (between? textareaMark "</textarea>" page.toList).map fun content =>
    String.ofList (textareaText content)

theorem dropFirstNewline_of_ne {c : Char} (other : c ≠ '\n') (rest : List Char) :
    dropFirstNewline (c :: rest) = c :: rest := by
  unfold dropFirstNewline
  split
  next equal => exact absurd (List.cons.inj equal).1 other
  next => rfl

private theorem dropFirstNewline_eq_self_iff (text : List Char) :
    dropFirstNewline text = text ↔ text.head? ≠ some '\n' := by
  cases text with
  | nil => simp [dropFirstNewline]
  | cons c rest =>
    by_cases newline : c = '\n'
    · subst newline
      simp [dropFirstNewline]
    · simp [dropFirstNewline_of_ne newline, newline]

/-- Escaping writes a newline as it is and nothing else as a newline. -/
private theorem dropFirstNewline_escapeChars (text : List Char) :
    dropFirstNewline (escapeChars text) = escapeChars (dropFirstNewline text) := by
  cases text with
  | nil => rfl
  | cons c rest =>
    have written : escapeChars (c :: rest) = escapeChar c ++ escapeChars rest := by
      rw [escapeChars_eq_flatMap, escapeChars_eq_flatMap, List.flatMap_cons]
    by_cases newline : c = '\n'
    · subst newline
      rw [written]
      rfl
    · rw [dropFirstNewline_of_ne newline, written]
      by_cases special : c ∈ entities.map Prod.fst
      · have lead : ∀ entry ∈ entities, (escapeChar entry.1).head? = some '&' := by decide
        obtain ⟨entry, listed, rfl⟩ := List.mem_map.mp special
        obtain ⟨entity, equal⟩ := List.head?_eq_some_iff.mp (lead entry listed)
        rw [equal, List.cons_append]
        exact dropFirstNewline_of_ne (by decide) _
      · rw [escapeChar_of_not_mem special, List.singleton_append]
        exact dropFirstNewline_of_ne newline _

private theorem textareaText_escape (text : String) :
    textareaText (escape text).toList = dropFirstNewline text.toList := by
  rw [textareaText, escape, String.toList_ofList, dropFirstNewline_escapeChars,
    unescapeChars_escapeChars]

theorem shownText?_edit (note : Note) (token : Token) :
    shownText? (Page.edit note token).render =
      some (String.ofList (dropFirstNewline note.text.toList)) := by
  obtain ⟨lead, ending, written, unmarked⟩ := edit_written note token
  unfold shownText?
  rw [written, between?_noteFields (unmarked _ (by simp [marks])), Option.map_some,
    textareaText_escape]

theorem shownText?_edit_eq_iff (note : Note) (token : Token) :
    shownText? (Page.edit note token).render = some note.text ↔
      note.text.toList.head? ≠ some '\n' := by
  rw [shownText?_edit, Option.some_inj, ← dropFirstNewline_eq_self_iff, ← String.toList_inj,
    String.toList_ofList]

private theorem save_changes {board : Board} {note : Note} {form : Form}
    (there : board.notes.get note.id = .ok note) (edited : form.text ≠ note.text) (now : Int) :
    (board.save now note.id form).2 ≠ board := by
  rw [get_eq] at there
  rcases PerformEffects.save_cases board now note.id form with
    ⟨row, notes, found, table, saved⟩ | ⟨missing, _⟩
  · intro unchanged
    rw [found] at there
    obtain rfl : row.readable = note := Except.ok.inj there
    have same : notes = board.notes := by
      rw [saved] at unchanged
      exact congrArg Board.notes unchanged
    have kept := congrFun table row.readable.id
    rw [Function.update_self, same, found] at kept
    exact edited (congrArg Note.text (Option.some.inj kept).symm)
  · rw [missing] at there
    cases there

/-- The textarea of a note's form shows the note's text without a line feed at its start. So it shows
the whole text, and the form can be saved as it is without a change, exactly if the text does not
start with a line feed. Carriage returns are taken as they stand. -/
theorem textarea_keeps_text_iff (note : Note) (token : Token) :
    shownText? (Page.edit note token).render =
        some (String.ofList (dropFirstNewline note.text.toList)) ∧
    (shownText? (Page.edit note token).render = some note.text ↔
      note.text.toList.head? ≠ some '\n') ∧
    ∀ (board : Board) (form : Form) (now : Int), board.notes.get note.id = .ok note →
      form.title = note.title → shownText? (Page.edit note token).render = some form.text →
      ((board.save now note.id form).2 = board ↔ note.text.toList.head? ≠ some '\n') := by
  refine ⟨shownText?_edit note token, shownText?_edit_eq_iff note token, ?_⟩
  intro board form now there title shown
  rw [← shownText?_edit_eq_iff note token, shown, Option.some_inj]
  constructor
  · intro unchanged
    by_contra edited
    exact save_changes there edited now unchanged
  · intro text
    rw [FormReturn.save_unedited there title text now]

namespace Loss

def note : Note := ⟨1, "plain", "\nabc", 1700000000, 1700086399⟩

def kept : Note := { note with text := "abc" }

def token : Token := ⟨3, "abcXYZ"⟩

def stored (note : Note) : Board :=
  { Board.new 0 fun _ => 0 with notes := ⟨[note], List.pairwise_singleton _ note⟩ }

def untouched : Form := ⟨[("title", "plain"), ("text", "abc")]⟩

end Loss

theorem untouched_form_saved :
    ((Loss.stored Loss.kept).notes.get 1 = .ok Loss.kept ∧
      shownText? (Page.edit Loss.kept Loss.token).render = some Loss.untouched.text ∧
      ((Loss.stored Loss.kept).save 9 1 Loss.untouched).2 = Loss.stored Loss.kept) ∧
    (Loss.stored Loss.note).notes.get 1 = .ok Loss.note ∧
      shownText? (Page.edit Loss.note Loss.token).render = some Loss.untouched.text ∧
      ((Loss.stored Loss.note).save 9 1 Loss.untouched).2 ≠ Loss.stored Loss.note := by
  obtain ⟨keptShown, _, keptSaved⟩ := textarea_keeps_text_iff Loss.kept Loss.token
  obtain ⟨noteShown, _, noteSaved⟩ := textarea_keeps_text_iff Loss.note Loss.token
  have keptThere : (Loss.stored Loss.kept).notes.get 1 = .ok Loss.kept := by decide +kernel
  have noteThere : (Loss.stored Loss.note).notes.get 1 = .ok Loss.note := by decide +kernel
  refine ⟨⟨keptThere, keptShown, ?_⟩, noteThere, noteShown, ?_⟩
  · exact (keptSaved _ Loss.untouched 9 keptThere rfl keptShown).mpr (by decide)
  · intro unchanged
    have whole := (noteSaved _ Loss.untouched 9 noteThere rfl noteShown).mp unchanged
    exact absurd whole (by decide)

/-- A text that starts with a newline comes out of the form without it. -/
theorem first_newline_lost :
    shownText? (Page.edit Loss.note Loss.token).render = some "abc" ∧
    shownText? (Page.edit Loss.note Loss.token).render ≠ some Loss.note.text := by
  rw [shownText?_edit]
  decide

end NoteBoard.Proofs.TextareaText
