import NoteBoard.Proofs.FormPage

/-! The addresses in the pages: those of the links and those that the forms are sent to, as they are
read from the text of a page. A template either has no mark of an address, or whole addresses, or ends
with the mark of one that the path of a note completes. -/

namespace NoteBoard.Proofs.PageAddresses
open FirstMark FormPage Html NotePage

/-- What an address in a page is for: to follow it, or to send a form to it. -/
inductive Purpose where
  | link
  | form

def Purpose.tag : Purpose → String
  | .link => "<a href=\""
  | .form => "<form action=\""

def Purpose.mark (purpose : Purpose) : List Char := purpose.tag.toList

/-- What stands after each occurrence of a mark, up to the next quote. -/
def valuesAfter (mark : List Char) : List Char → List (List Char)
  | [] => []
  | first :: rest =>
    match mark.isPrefixOf? (first :: rest) with
    | some after => after.takeWhile (· ≠ '"') :: valuesAfter mark rest
    | none => valuesAfter mark rest

def isOwn : Fragment → Bool
  | .fixed _ | .escaped _ => true
  | .ready _ => false

/-- A page without the texts of notes that it shows as markup, which may have links of their own. -/
def own (page : Document) : Document := page.filter isOwn

def text (page : Document) : List Char := (own page).render.toList

def addresses (purpose : Purpose) (page : Document) : List String :=
  (valuesAfter purpose.mark (text page)).map String.ofList

theorem mark_eq (purpose : Purpose) : ∃ rest, purpose.mark = '<' :: rest ∧ '<' ∉ rest := by
  cases purpose
  · exact ⟨"a href=\"".toList, rfl, by decide⟩
  · exact ⟨"form action=\"".toList, rfl, by decide⟩

theorem valuesAfter_clear {mark stretch : List Char} (passed : clear mark stretch = true)
    (rest : List Char) : valuesAfter mark (stretch ++ rest) = valuesAfter mark rest := by
  induction stretch with
  | nil => rfl
  | cons first stretch ih =>
    rw [clear, Bool.and_eq_true] at passed
    have missed := isPrefixOf?_of_apart passed.1 rest
    rw [List.cons_append] at missed ⊢
    rw [valuesAfter, missed]
    exact ih passed.2

private theorem valuesAfter_mark (purpose : Purpose) (rest : List Char) :
    valuesAfter purpose.mark (purpose.mark ++ rest) =
      rest.takeWhile (· ≠ '"') :: valuesAfter purpose.mark rest := by
  obtain ⟨tail, equal, once⟩ := mark_eq purpose
  have found : purpose.mark.isPrefixOf? (purpose.mark ++ rest) = some rest :=
    List.isPrefixOf?_eq_some_iff_append_eq.mpr rfl
  rw [equal] at found ⊢
  rw [List.cons_append] at found ⊢
  rw [valuesAfter, found, valuesAfter_clear (clear_of_not_mem tail once)]

private theorem valuesAfter_closed {purpose : Purpose} {lead : List Char}
    (ends : closes purpose.mark lead = true) (rest : List Char) :
    valuesAfter purpose.mark (lead ++ rest) =
      rest.takeWhile (· ≠ '"') :: valuesAfter purpose.mark rest := by
  rw [closes, Bool.and_eq_true, List.isSuffixOf_iff_suffix] at ends
  obtain ⟨⟨front, rfl⟩, unmarked⟩ := ends
  rw [List.length_append, Nat.add_sub_cancel, List.take_left] at unmarked
  rw [List.append_assoc, valuesAfter_clear unmarked, valuesAfter_mark]

/-- Each occurrence of the mark in a text is followed there by a whole value. -/
def complete (mark : List Char) : List Char → Bool
  | [] => true
  | first :: rest =>
    (apart mark (first :: rest) || (mark.isPrefixOf? (first :: rest)).any ('"' ∈ ·)) &&
      complete mark rest

private theorem valuesAfter_complete {mark text : List Char} (whole : complete mark text = true)
    (rest : List Char) :
    valuesAfter mark (text ++ rest) = valuesAfter mark text ++ valuesAfter mark rest := by
  induction text with
  | nil => rfl
  | cons first text ih =>
    rw [complete, Bool.and_eq_true, Bool.or_eq_true, Option.any_eq_true] at whole
    obtain ⟨here, later⟩ := whole
    rcases here with differ | ⟨after, found, quoted⟩
    · have missed := isPrefixOf?_of_apart differ rest
      have alone := isPrefixOf?_of_apart differ []
      rw [List.append_nil] at alone
      rw [List.cons_append] at missed ⊢
      rw [valuesAfter, valuesAfter, missed, alone]
      exact ih later
    · have longer : mark.isPrefixOf? (first :: (text ++ rest)) = some (after ++ rest) := by
        rw [List.isPrefixOf?_eq_some_iff_append_eq] at found ⊢
        rw [← List.append_assoc, found, List.cons_append]
      have ended : ¬ (after.takeWhile (· ≠ '"')).length = after.length := by
        intro same
        have quoteless := List.takeWhile_eq_self_iff.mp
          ((List.takeWhile_prefix (· ≠ '"')).eq_of_length same) _ (of_decide_eq_true quoted)
        simp at quoteless
      have inside : (after ++ rest).takeWhile (· ≠ '"') = after.takeWhile (· ≠ '"') := by
        rw [List.takeWhile_append, if_neg ended]
      rw [List.cons_append, valuesAfter, valuesAfter, longer, found]
      simp only [inside, ih later, List.cons_append]

private theorem takeWhile_quoteless {value : List Char} (quoteless : '"' ∉ value)
    (rest : List Char) :
    (value ++ '"' :: rest).takeWhile (· ≠ '"') = value := by
  rw [List.takeWhile_append_of_pos, List.takeWhile_cons_of_neg (by simp), List.append_nil]
  intro c inside
  rw [decide_eq_true_eq]
  rintro rfl
  exact quoteless inside

theorem clear_of_tagless (purpose : Purpose) {stretch : List Char} (tagless : '<' ∉ stretch) :
    clear purpose.mark stretch = true := by
  obtain ⟨rest, equal, _⟩ := mark_eq purpose
  rw [equal]
  exact clear_of_not_mem rest tagless

theorem clear_path (purpose : Purpose) (action : NoteAction) (id : Int) :
    clear purpose.mark (action.path id).toList = true :=
  clear_of_tagless purpose
    (not_mem_path (by decide) (by decide) (by cases action <;> decide) id)

private theorem text_append (first second : Document) :
    text (first ++ second) = text first ++ text second := by
  rw [text, own, List.filter_append, toList_render_append]
  rfl

theorem text_fixed (template : String) (part : Document) :
    text (.fixed template :: part) = template.toList ++ text part :=
  toList_render_cons (.fixed template) (own part)

private theorem text_escaped (value : String) (part : Document) :
    text (.escaped value :: part) = (escape value).toList ++ text part :=
  toList_render_cons (.escaped value) (own part)

/-- The addresses of a part of a page, whatever comes after it. -/
def Carries (purpose : Purpose) (part : Document) (values : List String) : Prop :=
  ∀ rest, valuesAfter purpose.mark (text part ++ rest) =
    values.map String.toList ++ valuesAfter purpose.mark rest

theorem Carries.append {purpose : Purpose} {first second : Document} {values others : List String}
    (left : Carries purpose first values) (right : Carries purpose second others) :
    Carries purpose (first ++ second) (values ++ others) := by
  intro rest
  rw [text_append, List.append_assoc, left, right, List.map_append, List.append_assoc]

theorem Carries.addresses_eq {purpose : Purpose} {page : Document} {values : List String}
    (carries : Carries purpose page values) : addresses purpose page = values := by
  have whole := carries []
  rw [List.append_nil, valuesAfter, List.append_nil] at whole
  have same : String.ofList ∘ String.toList = id := funext fun _ => String.ofList_toList
  rw [addresses, whole, List.map_map, same, List.map_id]

def skips (purpose : Purpose) : Fragment → Bool
  | .fixed template => clear purpose.mark template.toList
  | .escaped _ | .ready _ => true

private theorem clear_text {purpose : Purpose} {part : Document}
    (passed : part.all (skips purpose) = true) : clear purpose.mark (text part) = true := by
  induction part with
  | nil => rfl
  | cons fragment part ih =>
    rw [List.all_cons, Bool.and_eq_true] at passed
    obtain ⟨here, later⟩ := passed
    cases fragment with
    | fixed template =>
      rw [text_fixed]
      exact clear_append here (ih later)
    | escaped value =>
      have tagless : '<' ∉ (escape value).toList := not_mem_escape (by decide) (by decide) value
      rw [text_escaped]
      exact clear_append (clear_of_tagless purpose tagless) (ih later)
    | ready markup => exact ih later

theorem carries_none {purpose : Purpose} {part : Document}
    (passed : part.all (skips purpose) = true) : Carries purpose part [] :=
  valuesAfter_clear (clear_text passed)

theorem carries_past {purpose : Purpose} {part : Document} {values : List String} (count : Nat)
    (passed : (part.take count).all (skips purpose) = true)
    (later : Carries purpose (part.drop count) values) : Carries purpose part values := by
  have whole := (carries_none passed).append later
  rwa [List.take_append_drop] at whole

def holds (purpose : Purpose) (template : String) (values : List String) : Bool :=
  complete purpose.mark template.toList &&
    valuesAfter purpose.mark template.toList == values.map String.toList

theorem carries_template {purpose : Purpose} {template : String} {part : Document}
    {others : List String} (values : List String) (held : holds purpose template values = true)
    (later : Carries purpose part others) :
    Carries purpose (.fixed template :: part) (values ++ others) := by
  intro rest
  rw [holds, Bool.and_eq_true, beq_iff_eq] at held
  rw [text_fixed, List.append_assoc, valuesAfter_complete held.1, held.2, later, List.map_append,
    List.append_assoc]

/-- Two templates that an address stands between. -/
def encloses (purpose : Purpose) (lead next : String) : Bool :=
  closes purpose.mark lead.toList && next.toList.head? == some '"'

theorem carries_path {purpose : Purpose} {lead next : String} {action : NoteAction} {id : Int}
    {part : Document} {values : List String} (enclosed : encloses purpose lead next = true)
    (later : Carries purpose (.fixed next :: part) values) :
    Carries purpose (.fixed lead :: .fixed (action.path id) :: .fixed next :: part)
      (action.path id :: values) := by
  intro rest
  rw [encloses, Bool.and_eq_true, beq_iff_eq] at enclosed
  obtain ⟨ends, quoted⟩ := enclosed
  have quoteless : '"' ∉ (action.path id).toList :=
    not_mem_path (by decide) (by decide) (by cases action <;> decide) id
  have value : ((action.path id).toList ++ (text (.fixed next :: part) ++ rest)).takeWhile (· ≠ '"') =
      (action.path id).toList := by
    obtain ⟨tail, quote⟩ := List.head?_eq_some_iff.mp quoted
    rw [text_fixed, quote, List.cons_append, List.cons_append, takeWhile_quoteless quoteless]
  rw [text_fixed, text_fixed, List.append_assoc, List.append_assoc, valuesAfter_closed ends, value,
    valuesAfter_clear (clear_path purpose action id), later, List.map_cons, List.cons_append]

theorem skips_path (purpose : Purpose) (action : NoteAction) (id : Int) :
    skips purpose (.fixed (action.path id)) = true :=
  clear_path purpose action id

theorem skips_number (purpose : Purpose) (n : Nat) : skips purpose (.fixed (toString n)) = true :=
  clear_of_tagless purpose (not_mem_toString (by decide) n)

private theorem not_mem_padded {c : Char} (other : c.isDigit = false) (width n : Nat) :
    c ∉ (Text.padded width n).toList := by
  unfold Text.padded
  rw [String.toList_append, String.toList_ofList, List.mem_append, not_or]
  refine ⟨fun zero => ?_, not_mem_toString other n⟩
  rw [List.eq_of_mem_replicate zero] at other
  cases other

theorem skips_date (purpose : Purpose) (time : Int) :
    skips purpose (.fixed (Calendar.render time)) = true := by
  have number (width n : Nat) : '<' ∉ (Text.padded width n).toList := not_mem_padded (by decide) width n
  have year (n : Int) : '<' ∉ (CivilDate.yearText n).toList := by
    unfold CivilDate.yearText
    split
    · exact number 4 _
    · split
      all_goals
        rw [String.toList_append, List.mem_append, not_or]
        exact ⟨by decide, number 4 _⟩
  refine clear_of_tagless purpose ?_
  unfold Calendar.render
  simp only [String.toList_append, List.mem_append, not_or, number, year]
  decide

set_option maxRecDepth 10000 in
theorem carries_layout {purpose : Purpose} {body : Document} {values : List String} (title : String)
    (inner : Carries purpose body values) : Carries purpose (Page.layout title body) values := by
  have frame : (Page.layout title []).all (skips purpose) = true := by
    cases purpose
    all_goals
      simp only [Page.layout, Page.style, List.cons_append, List.nil_append, List.all_cons,
        List.all_nil, skips, Purpose.mark, Purpose.tag]
      repeat rw [String.toList_ofList]
      decide +kernel
  rw [Page.layout, List.append_nil, List.all_append, Bool.and_eq_true] at frame
  have whole := ((carries_none frame.1).append inner).append (carries_none frame.2)
  rwa [List.nil_append, List.append_nil] at whole

set_option maxRecDepth 10000 in
theorem carries_note (note : Note) :
    Carries .link (Page.note note) [NoteAction.edit.path note.id, NoteAction.delete.path note.id,
      NoteAction.paste.path note.id, "/"] ∧ Carries .form (Page.note note) [] := by
  refine ⟨carries_layout _ (carries_past 8 ?_ (carries_path ?_ (carries_path ?_ (carries_path ?_
    (carries_template ["/"] ?_ (carries_none rfl)))))), carries_layout _ (carries_none ?_)⟩
  all_goals
    simp only [List.take, List.all_cons, List.all_nil, skips_path, skips_date, encloses, holds,
      List.map_cons, List.map_nil]
    simp only [skips, Purpose.mark, Purpose.tag]
    repeat rw [String.toList_ofList]
    decide +kernel

set_option maxRecDepth 10000 in
theorem carries_edit (note : Note) (token : Token) :
    Carries .link (Page.edit note token) [NoteAction.view.path note.id] ∧
      Carries .form (Page.edit note token) [NoteAction.save.path note.id] := by
  refine ⟨carries_layout _ (carries_past 17 ?_ (carries_path ?_ (carries_none ?_))),
    carries_layout _ (carries_path ?_ (carries_none ?_))⟩
  all_goals
    simp only [Page.noteFields, Page.tokenFields, List.append_eq, List.cons_append, List.nil_append,
      List.take, List.all_cons, List.all_nil, skips_path, skips_number, encloses]
    simp only [skips, Purpose.mark, Purpose.tag, Token.idField, Token.secretField]
    repeat rw [String.toList_ofList]
    decide +kernel

set_option maxRecDepth 10000 in
/-- The pages that ask before a note is deleted or exported differ in their texts and in the action
that their form is sent to. -/
theorem carries_confirm {heading before after button : String}
    (tagless : ∀ template ∈ [heading, before, after, button], '<' ∉ template.toList)
    (action : NoteAction) (note : Note) (token : Token) :
    Carries .link (Page.confirm heading [.fixed before, .escaped note.title, .fixed after] action
        button note token) [NoteAction.view.path note.id] ∧
      Carries .form (Page.confirm heading [.fixed before, .escaped note.title, .fixed after] action
        button note token) [action.path note.id] := by
  have plain (purpose : Purpose) : ∀ template ∈ [heading, before, after, button],
      skips purpose (.fixed template) = true :=
    fun template member => clear_of_tagless purpose (tagless template member)
  simp only [List.forall_mem_cons, forall_and] at plain
  refine ⟨carries_layout _ (carries_past 22 ?_ (carries_path ?_ (carries_none ?_))),
    carries_layout _ (carries_past 8 ?_ (carries_path ?_ (carries_none ?_)))⟩
  all_goals
    simp only [Page.tokenFields, List.append_eq, List.cons_append, List.nil_append, List.take,
      List.all_cons, List.all_nil, skips_path, skips_number, plain, encloses]
    simp only [skips, Purpose.mark, Purpose.tag, Token.idField, Token.secretField]
    repeat rw [String.toList_ofList]
    decide +kernel

theorem carries_delete (note : Note) (token : Token) :
    Carries .link (Page.delete note token) [NoteAction.view.path note.id] ∧
      Carries .form (Page.delete note token) [NoteAction.confirmDelete.path note.id] :=
  carries_confirm (by decide) .confirmDelete note token

theorem carries_paste (note : Note) (token : Token) :
    Carries .link (Page.paste note token) [NoteAction.view.path note.id] ∧
      Carries .form (Page.paste note token) [NoteAction.confirmPaste.path note.id] :=
  carries_confirm (by decide) .confirmPaste note token

set_option maxRecDepth 10000 in
theorem carries_add (token : Token) :
    Carries .link (Page.add token) ["/"] ∧ Carries .form (Page.add token) ["/NewNote/"] := by
  refine ⟨carries_layout _ (carries_past 15 ?_ (carries_template ["/"] ?_ (carries_none rfl))),
    carries_layout _ (carries_template ["/NewNote/"] ?_ (carries_none ?_))⟩
  all_goals
    simp only [Page.noteFields, Page.tokenFields, List.append_eq, List.cons_append, List.nil_append,
      List.take, List.all_cons, List.all_nil, skips_number, holds, List.map_cons, List.map_nil]
    simp only [skips, Purpose.mark, Purpose.tag, Token.idField, Token.secretField]
    repeat rw [String.toList_ofList]
    decide +kernel

set_option maxRecDepth 10000 in
private theorem carries_row (note : Note) :
    Carries .link (Page.row note) [NoteAction.view.path note.id] ∧ Carries .form (Page.row note) [] := by
  refine ⟨carries_path ?_ (carries_none ?_), carries_none ?_⟩
  all_goals
    simp only [Page.row, List.all_cons, List.all_nil, skips_path, skips_date, encloses]
    simp only [skips, Purpose.mark, Purpose.tag]
    repeat rw [String.toList_ofList]
    decide +kernel

theorem carries_rows (notes : List Note) {ending : Document}
    (plain : (ending.all (skips .link) && ending.all (skips .form)) = true) :
    Carries .link (notes.flatMap Page.row ++ ending)
        (notes.map fun note => NoteAction.view.path note.id) ∧
      Carries .form (notes.flatMap Page.row ++ ending) [] := by
  rw [Bool.and_eq_true] at plain
  induction notes with
  | nil => exact ⟨carries_none plain.1, carries_none plain.2⟩
  | cons note notes ih =>
    obtain ⟨link, form⟩ := carries_row note
    rw [List.flatMap_cons, List.append_assoc]
    exact ⟨link.append ih.1, form.append ih.2⟩

set_option maxRecDepth 10000 in
theorem carries_index (notes : List Note) (filtered : Bool) :
    Carries .link (Page.index notes filtered) ("/AddNote/" :: ((if filtered then ["/"] else []) ++
        notes.map fun note => NoteAction.view.path note.id)) ∧
      Carries .form (Page.index notes filtered) [] := by
  refine ⟨carries_layout _ (carries_template ["/AddNote/"] ?_
      (carries_template (if filtered then ["/"] else []) ?_ (carries_past 3 ?_ (carries_rows notes ?_).1))),
    carries_layout _ (carries_past 5 ?_ (carries_rows notes ?_).2)⟩
  all_goals
    generalize notes.isEmpty = empty
    simp only [List.append_eq, List.cons_append, List.take, List.all_cons, List.all_nil, holds,
      List.map_cons, List.map_nil, skips, Purpose.mark, Purpose.tag]
    repeat rw [String.toList_ofList]
    decide +kernel +revert

end NoteBoard.Proofs.PageAddresses
