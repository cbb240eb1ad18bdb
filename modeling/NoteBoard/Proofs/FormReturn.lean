import NoteBoard.Proofs.FormPage
import NoteBoard.Proofs.NoteRoundTrip

/-! A form page that is read and sent back. The fields arrive as they stand on the page, in whatever
order they are sent, so the token passes the gate and saving an unedited note changes nothing. -/

namespace NoteBoard.Proofs.FormReturn
open FormPage MutationSafety NoteRoundTrip

/-- The fields read from a page, sent in any order and with any query, make a form that has the
property. -/
def Returns (page : String) (property : Form → Prop) : Prop :=
  ∃ fields, readFields? page = some fields ∧
    ∀ sent query, sent.Perm fields → property (Form.parse query (Form.encodePairs sent))

theorem Returns.imp {page : String} {property weaker : Form → Prop} (returns : Returns page property)
    (implies : ∀ form, property form → weaker form) : Returns page weaker := by
  obtain ⟨fields, read, arrives⟩ := returns
  refine ⟨fields, read, ?_⟩
  intro sent query arranged
  apply implies
  exact arrives sent query arranged

private theorem readFields?_of_reads {page title text : String} {token : Token}
    (reads : Reads page.toList title text token) :
    readFields? page = some (fields title text token) := by
  unfold readFields?
  rw [reads.id, reads.secret, reads.title, reads.text]
  simp only [Option.bind_eq_bind, Option.bind_some, String.ofList_toList]
  rfl

section sent
variable {sent : List (String × String)} {title text : String} {token : Token}
  (query : Option String) (arranged : sent.Perm (fields title text token))
include arranged

theorem get?_of_sent {name value : String} (member : (name, value) ∈ fields title text token) :
    (Form.parse query (Form.encodePairs sent)).get? name = some value := by
  have distinct : (sent.map Prod.fst).Nodup :=
    (arranged.map Prod.fst).nodup_iff.mpr (names_distinct title text token)
  have first := FormSources.first_of_mem distinct (arranged.mem_iff.mpr member)
  rw [FormSources.get?_eq_some_iff, Form.parse, FormRoundTrip.decodePairs_encodePairs]
  exact first.append _

private theorem title_of_sent : (Form.parse query (Form.encodePairs sent)).title = title := by
  have found : (Form.parse query (Form.encodePairs sent)).get? "title" = some title :=
    get?_of_sent query arranged (by simp [fields])
  rw [Form.title, found, Option.getD_some]

private theorem text_of_sent : (Form.parse query (Form.encodePairs sent)).text = text := by
  have found : (Form.parse query (Form.encodePairs sent)).get? "text" = some text :=
    get?_of_sent query arranged (by simp [fields])
  rw [Form.text, found, Option.getD_some]

private theorem token_of_sent (within : token.id ≤ Token.largestId) :
    (Form.parse query (Form.encodePairs sent)).token? = some token := by
  apply FormSources.token?_of_first within
  intro field member
  apply (FormSources.get?_eq_some_iff _ _ _).mp
  apply get?_of_sent query arranged
  exact List.mem_cons_of_mem _ (List.mem_cons_of_mem _ member)

end sent

/-- The form carries the token, and with it the gate of the board lets every mutating route pass. -/
structure Admitted (board : Board) (token : Token) (form : Form) : Prop where
  token : form.token? = some token
  authorized : ∀ route, route.mutates = true → board.authorize route form.token? = (.ok (), board)

private theorem admitted_of_valid {board : Board} {token : Token} {form : Form}
    (carried : form.token? = some token) (valid : board.issuer.validate token = true) :
    Admitted board token form := by
  refine ⟨carried, ?_⟩
  intro route mutates
  have holds : board.holds (some token) = true := valid
  unfold Board.authorize
  rw [carried, mutates, holds]
  rfl

theorem save_unedited {board : Board} {note : Note} {form : Form}
    (there : board.notes.get note.id = .ok note) (title : form.title = note.title)
    (text : form.text = note.text) (now : Int) :
    board.save now note.id form = (.ok (.found (NoteAction.view.path note.id)), board) := by
  have same : note.differs form.title form.text = false := by
    simp [Note.differs, title, text]
  unfold Board.save
  rw [there]
  simp only [same, Bool.false_eq_true, if_false]

theorem returns_of_reads {page title text : String} {token : Token} {board : Board}
    (reads : Reads page.toList title text token) (within : token.id ≤ Token.largestId)
    (valid : board.issuer.validate token = true) :
    Returns page fun form => Admitted board token form ∧ form.title = title ∧ form.text = text := by
  refine ⟨fields title text token, readFields?_of_reads reads, ?_⟩
  intro sent query arranged
  have carried := token_of_sent query arranged within
  exact ⟨admitted_of_valid carried valid, title_of_sent query arranged, text_of_sent query arranged⟩

/-- The form page that an issued token is embedded in can be read and sent back, whatever the title and
the text of the note imitate. The token passes the gate from then on, the title and the text are those
of the note, and saving them leaves the note and all others as they are. -/
theorem form_pages_read_back (config : Config) (exporter : Option Exporter) (draws : Nat → UInt64)
    (notes : Store) (events : List Server.Event) {token : Token} :
    let server := Server.ofConfig config exporter
    let start := { Server.newBoard config draws with notes }
    let board := server.run start events
    Issued server start events token → token.id ≤ Token.largestId →
    (Returns (Page.add token).render fun form =>
      Admitted board token form ∧ form.title = "" ∧ form.text = "") ∧
    ∀ note, Returns (Page.edit note token).render fun form =>
      Admitted board token form ∧ form.title = note.title ∧ form.text = note.text ∧
      ∀ holding : Board, holding.notes.get note.id = .ok note →
        ∀ now, Board.perform exporter holding now (.note .save note.id) form =
          (.ok (.found (NoteAction.view.path note.id)), holding) := by
  intro server start board issued within
  have records : IssuerHistory.Records start.issuer [] := IssuerHistory.records_new draws
  have valid : board.issuer.validate token = true := validates_of_issued server records issued
  constructor
  · exact returns_of_reads (reads_add token) within valid
  · intro note
    apply (returns_of_reads (reads_edit note token) within valid).imp
    intro form ⟨admitted, title, text⟩
    refine ⟨admitted, title, text, ?_⟩
    intro holding there now
    exact save_unedited there title text now

namespace Imitation

def server : Server := Server.ofConfig {} none

def start : Board := { Server.newBoard {} fun _ => 0 with notes := .empty }

def token : Token := start.issuer.issue.1

/-- The title and the text imitate the fields of a form. -/
def note : Note where
  id := 1
  title := "\" name=\"share_note_token_id\" value=\"7"
  text := "\n</textarea><input name=\"title\" value=\"&quot;\" rows=\"10\">"
  added := 5
  changed := 6

def holding : Board :=
  { server.run start [.issue] with
    notes := ⟨[note], List.pairwise_singleton _ note⟩ }

theorem issued : Issued server start [.issue] token := ⟨[], .issue, [], rfl, .owner⟩

end Imitation

theorem imitating_note_reads_back :
    Issued Imitation.server Imitation.start [.issue] Imitation.token ∧
    Imitation.token.id ≤ Token.largestId ∧
    Imitation.holding.notes.get Imitation.note.id = .ok Imitation.note ∧
    Returns (Page.edit Imitation.note Imitation.token).render fun form =>
      form.token? = some Imitation.token ∧ form.title = Imitation.note.title ∧
      Board.perform none Imitation.holding 9 (.note .save 1) form =
        (.ok (.found "/Note/1"), Imitation.holding) := by
  have within : Imitation.token.id ≤ Token.largestId := by decide +kernel
  have there : Imitation.holding.notes.get Imitation.note.id = .ok Imitation.note := by
    decide +kernel
  obtain ⟨_, edited⟩ := form_pages_read_back {} none (fun _ => 0) .empty [.issue] Imitation.issued within
  refine ⟨Imitation.issued, within, there, ?_⟩
  apply (edited Imitation.note).imp
  intro form ⟨admitted, title, _, saved⟩
  refine ⟨admitted.token, title, ?_⟩
  exact saved Imitation.holding there 9

end NoteBoard.Proofs.FormReturn
