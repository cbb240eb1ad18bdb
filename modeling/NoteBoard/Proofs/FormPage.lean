import NoteBoard.Proofs.DecimalText
import NoteBoard.Proofs.EntityRoundTrip
import NoteBoard.Proofs.NotePage

/-! Reading a form page back. Each field stands between its mark and the next quote or tag. A value is
escaped before it is written, so it holds no quote and cannot complete a mark, not even together
with the template around it. -/

namespace NoteBoard.Proofs.FormPage
open EntityRoundTrip FirstMark Html NotePage

/-- What a page has before the value of an input. -/
def attributeMark (name : String) : String := "name=\"" ++ name ++ "\" value=\""

def textareaMark : String := "rows=\"10\">"

def marks : List (List Char) :=
  [attributeMark "title", textareaMark, attributeMark Token.idField,
    attributeMark Token.secretField].map String.toList

def content? (page : List Char) : Option (List Char) :=
  (between? textareaMark "</textarea>" page).map unescapeChars

/-- The fields of the form on a page, as they are taken from its text. -/
def readFields? (page : String) : Option (List (String × String)) := do
  let id ← attribute? (attributeMark Token.idField) page.toList
  let secret ← attribute? (attributeMark Token.secretField) page.toList
  let title ← attribute? (attributeMark "title") page.toList
  let text ← content? page.toList
  return [("title", String.ofList title), ("text", String.ofList text),
    (Token.idField, String.ofList id), (Token.secretField, String.ofList secret)]

def toTitle : Document := (Page.noteFields "" "" ⟨0, ""⟩).take 1

def toText : Document := ((Page.noteFields "" "" ⟨0, ""⟩).drop 2).take 1

def toId : Document := ((Page.noteFields "" "" ⟨0, ""⟩).drop 4).take 4

def toSecret : Document := ((Page.noteFields "" "" ⟨0, ""⟩).drop 9).take 3

private theorem noteFields_eq (title text : String) (token : Token) :
    Page.noteFields title text token =
    toTitle ++ .escaped title :: (toText ++ .escaped text :: (toId ++
      .fixed (toString token.id) :: (toSecret ++ [.escaped token.secret, .fixed "\">"]))) :=
  rfl

theorem noteFields_written (title text : String) (token : Token) :
    (Page.noteFields title text token).render.toList =
      toTitle.render.toList ++ ((escape title).toList ++ (toText.render.toList ++
        ((escape text).toList ++ (toId.render.toList ++ ((toString token.id).toList ++
          (toSecret.render.toList ++ ((escape token.secret).toList ++ "\">".toList))))))) := by
  rw [noteFields_eq]
  simp only [toList_render_append, toList_render_cons, Fragment.render]
  rfl

def addLead : Document := (Page.add ⟨0, ""⟩).take 6

def editLead : Document := (Page.edit ⟨0, "", "", 0, 0⟩ ⟨0, ""⟩).take 6

def editMethod : Document := ((Page.edit ⟨0, "", "", 0, 0⟩ ⟨0, ""⟩).drop 7).take 1

private theorem add_eq (token : Token) :
    ∃ ending : Document, Page.add token = addLead ++ (Page.noteFields "" "" token ++ ending) :=
  ⟨_, rfl⟩

private theorem edit_eq (note : Note) (token : Token) : ∃ ending : Document, Page.edit note token =
    editLead ++ .fixed (NoteAction.save.path note.id) :: (editMethod ++
      (Page.noteFields note.title note.text token ++ ending)) :=
  ⟨_, rfl⟩

set_option maxRecDepth 10000 in
theorem leads_unmarked :
    (∀ mark ∈ marks, clear mark addLead.render.toList = true) ∧
    ∀ mark ∈ marks, clear mark editLead.render.toList = true ∧
      passes '"' mark editMethod.render.toList = true := by
  simp only [marks, attributeMark, textareaMark, toList_render, addLead, editLead, editMethod, Page.add,
    Page.edit, Page.noteFields, Page.tokenFields, Page.layout, Page.style, Token.idField,
    Token.secretField, List.map_cons, List.map_nil, List.take, List.drop, List.cons_append,
    List.nil_append, List.flatMap_cons, List.flatMap_nil, Fragment.render, escape,
    String.toList_append]
  repeat rw [String.toList_ofList]
  decide +kernel

set_option maxRecDepth 10000 in
theorem marks_placed :
    closes (attributeMark "title").toList toTitle.render.toList = true ∧
    (∀ mark ∈ marks.drop 1, clear mark toTitle.render.toList = true) ∧
    opens '"' textareaMark.toList toText.render.toList = true ∧
    (∀ mark ∈ marks.drop 2, passes '"' mark toText.render.toList = true) ∧
    opens '"' (attributeMark Token.idField).toList toId.render.toList = true ∧
    (∀ mark ∈ marks.drop 3, passes '"' mark toId.render.toList = true) ∧
    opens '"' (attributeMark Token.secretField).toList toSecret.render.toList = true ∧
    "\"".toList <+: toText.render.toList ∧
    "</textarea>".toList <+: toId.render.toList ∧
    "\"".toList <+: toSecret.render.toList := by
  simp only [marks, attributeMark, textareaMark, toList_render, toTitle, toText, toId, toSecret,
    Page.noteFields, Page.tokenFields, Token.idField, Token.secretField, List.map_cons, List.map_nil,
    List.take, List.drop, List.cons_append, List.nil_append, List.flatMap_cons, List.flatMap_nil,
    Fragment.render, String.toList_append]
  repeat rw [String.toList_ofList]
  decide +kernel

theorem quote_not_mem_escape (text : String) : '"' ∉ (escape text).toList :=
  not_mem_escape (by decide) (by decide) text

theorem not_mem_toString {c : Char} (other : c.isDigit = false) (n : Nat) :
    c ∉ (toString n).toList := by
  intro member
  rw [Nat.toString_eq_ofList_toDigits, String.toList_ofList] at member
  have digit := (DecimalText.digits_toDigits n).2 c member
  rw [other] at digit
  cases digit

theorem not_mem_path {c : Char} (other : c.isDigit = false) (unsigned : c ≠ '-') {action : NoteAction}
    (unled : c ∉ action.lead.toList) (id : Int) : c ∉ (action.path id).toList := by
  have number : c ∉ (toString id).toList := by
    cases id with
    | ofNat n => exact not_mem_toString other n
    | negSucc n =>
      have signed : (toString (Int.negSucc n)).toList = '-' :: (toString (n + 1)).toList := by
        change ("-" ++ toString (n + 1)).toList = _
        rw [String.toList_append]
        rfl
      rw [signed, List.mem_cons, not_or]
      exact ⟨unsigned, not_mem_toString other _⟩
  intro member
  rw [NoteAction.path, String.toList_append, List.mem_append] at member
  exact member.elim unled number

private theorem quote_not_mem_path (id : Int) : '"' ∉ (NoteAction.save.path id).toList :=
  not_mem_path (by decide) (by decide) (by decide) id

theorem attribute?_of_clear {name : String} {passed part value template : List Char}
    (unmarked : clear (attributeMark name).toList passed = true)
    (ends : closes (attributeMark name).toList part = true) (quoteless : '"' ∉ value)
    (closed : "\"".toList <+: template) (rest : List Char) :
    attribute? (attributeMark name) (passed ++ (part ++ (value ++ (template ++ rest)))) =
      some (unescapeChars value) := by
  have marked : (attributeMark name).toList ≠ [] := by simp [attributeMark]
  have unclosed : clear "\"".toList value = true := clear_of_not_mem [] quoteless
  unfold attribute?
  rw [between?_of_clear marked unmarked ends (by simp) unclosed
    (closed.trans (List.prefix_append _ rest)), Option.map_some]

theorem between?_noteFields {lead : List Char} (unmarked : clear textareaMark.toList lead = true)
    (title text : String) (token : Token) (ending : List Char) :
    between? textareaMark "</textarea>"
        (lead ++ ((Page.noteFields title text token).render.toList ++ ending)) =
      some (escape text).toList := by
  obtain ⟨_, titleFree, textOpens, _, _, _, _, _, textEnds, _⟩ := marks_placed
  have marked : textareaMark.toList ≠ [] := by simp [textareaMark]
  have passed := clear_append unmarked (titleFree textareaMark.toList (by simp [marks]))
  have opened := closes_of_opens (quote_not_mem_escape title) textOpens
  have unclosed : clear "</textarea>".toList (escape text).toList = true := clear_escape _ text
  rw [noteFields_written]
  have found (rest : List Char) := between?_of_clear marked passed opened (by simp) unclosed
    (textEnds.trans (List.prefix_append _ rest))
  simp only [List.append_assoc] at found ⊢
  exact found _

/-- What is read from a page that has a form with these values. -/
structure Reads (page : List Char) (title text : String) (token : Token) : Prop where
  title : attribute? (attributeMark "title") page = some title.toList
  text : content? page = some text.toList
  id : attribute? (attributeMark Token.idField) page = some (toString token.id).toList
  secret : attribute? (attributeMark Token.secretField) page = some token.secret.toList

/-- The form of a page is read field by field, whatever its values imitate, if none of its marks is
in the page before. -/
theorem reads_noteFields {lead : List Char} (unmarked : ∀ mark ∈ marks, clear mark lead = true)
    (title text : String) (token : Token) (ending : List Char) :
    Reads (lead ++ ((Page.noteFields title text token).render.toList ++ ending)) title text token := by
  obtain ⟨titleOpens, titleFree, textOpens, textFree, idOpens, idFree, secretOpens, titleEnds,
    textEnds, idEnds⟩ := marks_placed
  have titleQuoteless := quote_not_mem_escape title
  have textQuoteless := quote_not_mem_escape text
  have secretQuoteless := quote_not_mem_escape token.secret
  have idQuoteless : '"' ∉ (toString token.id).toList := not_mem_toString (by decide) _
  have listed : marks = [(attributeMark "title").toList, textareaMark.toList,
    (attributeMark Token.idField).toList, (attributeMark Token.secretField).toList] := rfl
  simp only [listed, List.drop, List.forall_mem_cons] at unmarked titleFree textFree idFree
  obtain ⟨titleLead, textLead, idLead, secretLead, _⟩ := unmarked
  obtain ⟨_, idTitle, secretTitle, _⟩ := titleFree
  obtain ⟨idText, secretText, _⟩ := textFree
  have textarea := between?_noteFields textLead title text token ending
  rw [noteFields_written] at textarea ⊢
  simp only [List.append_assoc] at textarea ⊢
  constructor
  · rw [attribute?_of_clear titleLead titleOpens titleQuoteless titleEnds, unescapeChars_escape]
  · unfold content?
    rw [textarea, Option.map_some, unescapeChars_escape]
  · have passed := clear_append (clear_append idLead idTitle) (clear_of_passes titleQuoteless idText)
    have found := attribute?_of_clear passed (closes_of_opens textQuoteless idOpens) idQuoteless idEnds
    have plain : unescapeChars (toString token.id).toList = (toString token.id).toList :=
      unescapeChars_of_not_mem (not_mem_toString (by decide) _)
    simp only [List.append_assoc, plain] at found
    exact found _
  · have passed := clear_append (clear_append (clear_append secretLead secretTitle)
      (clear_of_passes titleQuoteless secretText)) (clear_of_passes textQuoteless idFree.1)
    have found := attribute?_of_clear passed (closes_of_opens idQuoteless secretOpens)
      secretQuoteless (List.prefix_append "\"".toList ">".toList)
    simp only [List.append_assoc, unescapeChars_escape] at found
    exact found _

theorem reads_add (token : Token) : Reads (Page.add token).render.toList "" "" token := by
  obtain ⟨ending, equal⟩ := add_eq token
  rw [equal, toList_render_append, toList_render_append]
  exact reads_noteFields leads_unmarked.1 "" "" token ending.render.toList

/-- The form of a note is the first thing on its page that looks like one. -/
theorem edit_written (note : Note) (token : Token) :
    ∃ lead ending, (Page.edit note token).render.toList =
        lead ++ ((Page.noteFields note.title note.text token).render.toList ++ ending) ∧
      ∀ mark ∈ marks, clear mark lead = true := by
  obtain ⟨ending, equal⟩ := edit_eq note token
  refine ⟨editLead.render.toList ++ ((NoteAction.save.path note.id).toList ++
    editMethod.render.toList), ending.render.toList, ?_, ?_⟩
  · rw [equal]
    simp only [toList_render_append, toList_render_cons, Fragment.render, List.append_assoc]
  · intro mark listed
    obtain ⟨free, passed⟩ := leads_unmarked.2 mark listed
    exact clear_append free (clear_of_passes (quote_not_mem_path note.id) passed)

theorem reads_edit (note : Note) (token : Token) :
    Reads (Page.edit note token).render.toList note.title note.text token := by
  obtain ⟨lead, ending, written, unmarked⟩ := edit_written note token
  rw [written]
  exact reads_noteFields unmarked note.title note.text token ending

end NoteBoard.Proofs.FormPage
