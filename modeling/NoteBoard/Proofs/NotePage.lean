import NoteBoard.Html.Reading
import NoteBoard.Page.Basic
import NoteBoard.Proofs.FirstMark

/-! What the page of a note shows. An escaped text holds no character that could start a tag, so
the title and the heading of the page are where a reader looks for them. -/

namespace NoteBoard.Proofs.NotePage
open FirstMark Html

theorem not_mem_replaceEvery {c special : Char} {entity text : List Char} (clean : c ∉ entity)
    (away : c = special ∨ c ∉ text) : c ∉ replaceEvery special entity text := by
  intro member
  obtain ⟨other, inside, written⟩ := List.mem_flatMap.mp member
  split at written
  next => exact clean written
  next different =>
    obtain rfl := List.mem_singleton.mp written
    exact away.elim different fun absent => absent inside

private theorem not_mem_foldl {c : Char} {entries : List (Char × List Char)}
    (clean : ∀ entry ∈ entries, c ∉ entry.2) {text : List Char}
    (away : c ∈ entries.map Prod.fst ∨ c ∉ text) :
    c ∉ entries.foldl (fun current entry => replaceEvery entry.1 entry.2 current) text := by
  induction entries generalizing text with
  | nil => exact away.resolve_left List.not_mem_nil
  | cons entry entries ih =>
    obtain ⟨own, others⟩ := List.forall_mem_cons.mp clean
    refine ih others ?_
    rcases away with listed | absent
    · rcases List.mem_cons.mp listed with same | later
      · exact Or.inr (not_mem_replaceEvery own (Or.inl same))
      · exact Or.inl later
    · exact Or.inr (not_mem_replaceEvery own (Or.inr absent))

theorem not_mem_escape {c : Char} (listed : c ∈ entities.map Prod.fst)
    (clean : ∀ entry ∈ entities, c ∉ entry.2) (text : String) : c ∉ (escape text).toList := by
  rw [escape, String.toList_ofList]
  exact not_mem_foldl clean (Or.inl listed)

theorem clear_escape (mark : List Char) (text : String) :
    clear ('<' :: mark) (escape text).toList = true :=
  clear_of_not_mem mark (not_mem_escape (by decide) (by decide) text)

theorem between?_of_clear {mark closing : String} {passed part inner tail : List Char}
    (marked : mark.toList ≠ []) (unmarked : clear mark.toList passed = true)
    (ends : closes mark.toList part = true) (nonempty : closing.toList ≠ [])
    (unclosed : clear closing.toList inner = true) (closed : closing.toList <+: tail) :
    between? mark closing (passed ++ (part ++ (inner ++ tail))) = some inner := by
  obtain ⟨rest, rfl⟩ := closed
  obtain ⟨before, first⟩ := cut?_after marked unmarked ends (inner ++ (closing.toList ++ rest))
  unfold between?
  rw [first, Option.bind_eq_bind, Option.bind_some, cut?_at nonempty unclosed, Option.bind_some]
  rfl

theorem toList_render (document : Document) :
    document.render.toList = document.flatMap fun fragment => fragment.render.toList := by
  rw [Document.render, String.toList_join, List.flatMap_map]

theorem toList_render_cons (fragment : Fragment) (document : Document) :
    (Document.render (fragment :: document)).toList =
      fragment.render.toList ++ document.render.toList := by
  rw [toList_render, List.flatMap_cons, ← toList_render]

theorem toList_render_append (first second : Document) :
    (Document.render (first ++ second)).toList = first.render.toList ++ second.render.toList := by
  rw [toList_render, List.flatMap_append, ← toList_render, ← toList_render]

/-- How the page of a note is read: title and heading are the escaped title of the note, and its text
with the links written as anchors is what the block for the text holds. -/
structure Shows (page title text : String) : Prop where
  titled : between? "<title>" "</title>" page.toList = some (escape title).toList
  headed : between? "<h1>" "</h1>" page.toList = some (escape title).toList
  body : ∃ before after, Text.cut? "<div class=\"note-text\">".toList page.toList = some (before,
    (Link.annotate text).toList ++ ("</div>\n        <p class=\"dates\">Added ".toList ++ after))

def opening : Document := (Page.layout "" []).take 1

def middle : Document := ((Page.layout "" []).drop 2).take 3 ++ [.fixed "<h1>"]

def heading : Document := [.fixed "</h1>
        <div class=\"note-text\">"]

private theorem note_eq (note : Note) : ∃ ending : Document, Page.note note =
    opening ++ .escaped note.title :: (middle ++ .escaped note.title :: (heading ++
      .ready (Link.annotate note.text) ::
        .fixed "</div>\n        <p class=\"dates\">Added " :: ending)) :=
  ⟨_, rfl⟩

private theorem note_written (note : Note) : ∃ ending : List Char, (Page.note note).render.toList =
    opening.render.toList ++ ((escape note.title).toList ++ (middle.render.toList ++
      ((escape note.title).toList ++ (heading.render.toList ++ ((Link.annotate note.text).toList ++
        ("</div>\n        <p class=\"dates\">Added ".toList ++ ending)))))) := by
  obtain ⟨ending, equal⟩ := note_eq note
  refine ⟨ending.render.toList, ?_⟩
  rw [equal]
  simp only [toList_render_append, toList_render_cons, Fragment.render]

set_option maxRecDepth 10000 in
theorem marks_placed :
    closes "<title>".toList opening.render.toList = true ∧
    "</title>".toList <+: middle.render.toList ∧
    clear "<h1>".toList opening.render.toList = true ∧
    closes "<h1>".toList middle.render.toList = true ∧
    "</h1>".toList <+: heading.render.toList ∧
    clear "<div class=\"note-text\">".toList opening.render.toList = true ∧
    clear "<div class=\"note-text\">".toList middle.render.toList = true ∧
    closes "<div class=\"note-text\">".toList heading.render.toList = true := by
  simp only [toList_render, opening, middle, heading, Page.layout, Page.style, List.take, List.drop,
    List.cons_append, List.nil_append, List.flatMap_cons, List.flatMap_nil, Fragment.render]
  repeat rw [String.toList_ofList]
  decide +kernel

theorem shows_note (note : Note) : Shows (Page.note note).render note.title note.text := by
  obtain ⟨ending, written⟩ := note_written note
  obtain ⟨titleOpens, titleCloses, headFree, headOpens, headCloses, textFree, textFar, textOpens⟩ :=
    marks_placed
  have titlePassed (mark : List Char) : clear ('<' :: mark) (escape note.title).toList = true :=
    clear_escape mark note.title
  constructor
  · rw [written, ← List.nil_append (opening.render.toList ++ _)]
    exact between?_of_clear (by decide) rfl titleOpens (by decide) (titlePassed _)
      (titleCloses.trans (List.prefix_append _ _))
  · rw [written, ← List.append_assoc]
    exact between?_of_clear (by decide) (clear_append headFree (titlePassed _)) headOpens (by decide)
      (titlePassed _) (headCloses.trans (List.prefix_append _ _))
  · have passed := clear_append (clear_append textFree (titlePassed _))
      (clear_append textFar (titlePassed _))
    obtain ⟨before, found⟩ := cut?_after (by decide) passed textOpens
      ((Link.annotate note.text).toList ++ ("</div>\n        <p class=\"dates\">Added ".toList ++ ending))
    refine ⟨before, ending, ?_⟩
    rw [written, ← found]
    simp only [List.append_assoc]

end NoteBoard.Proofs.NotePage
