import Mathlib.Data.Nat.Find
import NoteBoard.Link.Annotate
import NoteBoard.Proofs.RegexMatches

/-! The places of links in an annotated text. Links are found again by their characters, so a link
is anchored where it was found only if its characters do not occur before, from the end of the
link before it on. -/

namespace NoteBoard.Proofs.LinkPlaces
open Link RegexMatches

/-- The text from a place on, with an anchor in place of each span. -/
def linkedFrom (text : List Char) (place : Nat) : List Span → List Char
  | [] => text.drop place
  | span :: spans =>
    (text.drop place).take (span.start - place) ++ anchor span.text ++
      linkedFrom text span.stop spans

def linked (text : List Char) : List Char := linkedFrom text 0 (spans text)

/-- The characters of each span occur first where the span starts, from the end of the one before
it on. -/
def FirstMet (text : List Char) (place : Nat) : List Span → Prop
  | [] => True
  | span :: spans =>
    (∀ sooner, place ≤ sooner → sooner < span.start → ¬ span.text <+: text.drop sooner) ∧
      FirstMet text span.stop spans

private theorem pattern_starts : Starts (· ≠ '<') pattern := by
  refine Starts.alt ?_ (.alt ?_ (.alt ?_ ?_))
  · exact Starts.seq (starts_one_ne (by decide))
  · exact Starts.seq (.seq (starts_one_ne (by decide)))
  · exact Starts.seq (.seq (starts_one_ne (by decide)))
  · exact Starts.edge (.seq (.seq (.seq (starts_one_ne (by decide)))))

private theorem weaveFrom_skip (skip : Nat) (links : List (List Char)) (text : List Char) :
    weaveFrom skip links text = weaveFrom 0 links (text.drop skip) := by
  induction text generalizing skip with
  | nil => cases skip <;> simp [weaveFrom]
  | cons c text ih =>
    cases skip with
    | zero => rfl
    | succ skip => exact ih skip

theorem markup_weaveFrom_nil (text : List Char) : markupOf (weaveFrom 0 [] text) = text := by
  induction text with
  | nil => rfl
  | cons c text ih => exact congrArg (c :: ·) ih

private theorem anchor_tagged (link : List Char) : ∃ inside, anchor link = '<' :: inside := ⟨_, rfl⟩

theorem markup_weaveFrom_first {link text : List Char} (links : List (List Char)) {place : Nat}
    (nonempty : link ≠ []) (here : link <+: text.drop place)
    (before : ∀ sooner < place, ¬ link <+: text.drop sooner) :
    markupOf (weaveFrom 0 (link :: links) text) =
      text.take place ++ anchor link ++
        markupOf (weaveFrom 0 links (text.drop (place + link.length))) := by
  induction place generalizing text with
  | zero =>
    cases text with
    | nil => exact absurd (List.prefix_nil.mp here) nonempty
    | cons c rest =>
      have size : link.length = (link.length - 1) + 1 :=
        (Nat.sub_add_cancel (List.length_pos_iff.mpr nonempty)).symm
      have step : weaveFrom 0 (link :: links) (c :: rest) =
          .link link :: weaveFrom (link.length - 1) links rest :=
        if_pos (List.isPrefixOf_iff_prefix.mpr here)
      rw [step, weaveFrom_skip, Nat.zero_add, size, List.drop_succ_cons]
      rfl
  | succ place ih =>
    cases text with
    | nil => exact absurd (List.prefix_nil.mp here) nonempty
    | cons c rest =>
      have step : weaveFrom 0 (link :: links) (c :: rest) =
          .char c :: weaveFrom 0 (link :: links) rest :=
        if_neg fun occurs => before 0 (Nat.succ_pos place) (List.isPrefixOf_iff_prefix.mp occurs)
      have later := ih here fun sooner ahead => before (sooner + 1) (Nat.succ_lt_succ ahead)
      rw [step, Nat.succ_add, List.drop_succ_cons, List.take_succ_cons]
      exact congrArg (c :: ·) later

theorem first_occurrence {link text : List Char} (somewhere : ∃ place, link <+: text.drop place) :
    ∃ first, link <+: text.drop first ∧ ∀ sooner < first, ¬ link <+: text.drop sooner :=
  ⟨Nat.find somewhere, Nat.find_spec somewhere, fun _ => Nat.find_min somewhere⟩

private theorem linkedFrom_cons {text : List Char} {place : Nat} {span : Span} {spans : List Span} :
    linkedFrom text place (span :: spans) =
      (text.drop place).take (span.start - place) ++ anchor span.text ++
        linkedFrom text span.stop spans := rfl

/-- An anchor written too soon is told apart by its tag from the text that goes on there. -/
private theorem markup_ne_of_sooner {text link : List Char} {first size : Nat}
    (starts : ∃ c rest, link = c :: rest ∧ c ≠ '<') (here : link <+: text.drop first)
    (sooner : first < size) (markup middle later : List Char) :
    text.take first ++ anchor link ++ markup ≠ text.take size ++ middle ++ later := by
  intro equal
  obtain ⟨head, rest, written, tagless⟩ := starts
  obtain ⟨tail, shape⟩ := here
  obtain ⟨gap, rfl⟩ := Nat.exists_eq_add_of_lt sooner
  obtain ⟨inside, tagged⟩ := anchor_tagged link
  rw [Nat.add_assoc, List.take_add, ← shape, written, List.cons_append, List.take_succ_cons,
    ← written, tagged] at equal
  simp only [List.append_assoc, List.append_cancel_left_eq, List.cons_append] at equal
  exact tagless (List.cons.inj equal).1.symm

/-- The walk and the places of the spans agree exactly where no span is met too soon. -/
private theorem markup_eq_linkedFrom_iff {text : List Char} {place : Nat} {spans : List Span}
    (placed : Placed pattern text place spans) :
    markupOf (weaveFrom 0 (spans.map Span.text) (text.drop place)) = linkedFrom text place spans ↔
      FirstMet text place spans := by
  induction placed with
  | none place => simp only [List.map_nil, markup_weaveFrom_nil, linkedFrom, FirstMet]
  | @next place span spans fits ahead later ih =>
    have occurs := fits.occurs ahead
    obtain ⟨first, here, unmet⟩ := first_occurrence ⟨_, occurs⟩
    rw [List.map_cons, linkedFrom_cons,
      markup_weaveFrom_first (spans.map Span.text) fits.nonempty here unmet]
    have notLater : first ≤ span.start - place :=
      Nat.le_of_not_lt fun beyond => unmet _ beyond occurs
    rcases Nat.lt_or_eq_of_le notLater with sooner | rfl
    · refine iff_of_false (markup_ne_of_sooner (pattern_starts.fits fits) here sooner _ _ _) ?_
      intro met
      refine met.1 (place + first) (Nat.le_add_right ..) (by omega) ?_
      rwa [← List.drop_drop]
    · rw [fits.drop_stop ahead, List.append_right_inj, ih]
      refine ⟨fun met => ⟨?_, met⟩, And.right⟩
      intro sooner past short occursSooner
      refine unmet (sooner - place) (by omega) ?_
      rwa [List.drop_drop, Nat.add_sub_of_le past]

private theorem nonempty_of_placed {text : List Char} {place : Nat} {spans : List Span}
    (placed : Placed pattern text place spans) : ∀ link ∈ spans.map Span.text, link ≠ [] := by
  induction placed with
  | none place => simp
  | next fits ahead later ih =>
    rw [List.map_cons, List.forall_mem_cons]
    exact ⟨fits.nonempty, ih⟩

private theorem weave_spans (text : List Char) :
    weave ((spans text).map Span.text) text = weaveFrom 0 ((spans text).map Span.text) text := by
  have kept := nonempty_of_placed (spans_placed pattern text)
  unfold weave
  rw [List.filter_eq_self.mpr]
  intro link member
  rw [List.isEmpty_eq_false_iff.mpr (kept link member)]
  rfl

/-- Each link is anchored where it was found, and all else is copied, if and only if the characters
of no link occur sooner in what follows the link before it. -/
theorem annotate_eq_linked_iff (text : String) :
    annotate text = String.ofList (linked text.toList) ↔
      FirstMet text.toList 0 (spans text.toList) := by
  have placed : Placed pattern text.toList 0 (spans text.toList) := spans_placed pattern _
  have scanned : (scan text).map String.toList = (spans text.toList).map Span.text := by
    unfold scan
    rw [List.map_map]
    exact List.map_congr_left fun span _ => String.toList_ofList
  unfold annotate annotateWith
  rw [scanned, weave_spans, String.ofList_inj]
  exact markup_eq_linkedFrom_iff placed

/-- A link whose characters occur sooner, inside a word, is anchored there and not where it was
found. -/
theorem annotate_inside_word :
    annotate "xa.ioq a.io" = "x<a href=\"http://a.io\" target=\"_blank\">a.io</a>q a.io" ∧
    String.ofList (linked "xa.ioq a.io".toList) =
      "xa.ioq <a href=\"http://a.io\" target=\"_blank\">a.io</a>" ∧
    annotate "xa.ioq a.io" ≠ String.ofList (linked "xa.ioq a.io".toList) := by
  decide +kernel

end NoteBoard.Proofs.LinkPlaces
