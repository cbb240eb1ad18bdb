import NoteBoard.Proofs.FormRoundTrip
import NoteBoard.Proofs.PasteReference

/-! The exchange with the paste service. The request carries the note as a form that this board would
read back as the same title and text, and of the reply only the status and the text of the body
count. -/

namespace NoteBoard.Proofs.PasteExchange
open NoteTable PasteReference PerformEffects

def IsWebUrl (text : String) : Prop :=
  ∃ url, Url.parse text = .ok url ∧ (url.scheme = "http".toList ∨ url.scheme = "https".toList)

theorem isWeb_iff (text : String) : isWeb text = true ↔ IsWebUrl text := by
  unfold isWeb IsWebUrl
  cases Url.parse text with
  | error cause => simp [Except.toOption]
  | ok url => simp [Except.toOption, Url.isHttp]

def Succeeds (status : Nat) : Prop := 200 ≤ status ∧ status ≤ 299

structure Classified (status : Nat) (text : String) (outcome : Except ExportError String) :
    Prop where
  published : ∀ reference, outcome = .ok reference ↔
    Succeeds status ∧ Text.trim text = reference ∧ IsWebUrl reference
  declined : ¬ Succeeds status → outcome = .error (.status status)
  unusable : Succeeds status → ¬ IsWebUrl (Text.trim text) →
    outcome = .error (.invalidReference (Text.trim text))

theorem isSuccess_iff (reply : Paste.Reply) : reply.isSuccess = true ↔ Succeeds reply.status := by
  simp [Paste.Reply.isSuccess, Succeeds]

theorem readReply_of_declined {reply : Paste.Reply} (declined : ¬ Succeeds reply.status) :
    Paste.readReply reply = .error (.status reply.status) := by
  unfold Paste.readReply
  rw [if_neg (mt (isSuccess_iff reply).mp declined)]

theorem readReply_of_complete {status : Nat} (succeeds : Succeeds status) (text : String) :
    Paste.readReply ⟨status, .ok text⟩ = Paste.parseReference text := by
  unfold Paste.readReply
  rw [if_pos ((isSuccess_iff _).mpr succeeds)]

private theorem readReply_classified (status : Nat) (text : String) :
    Classified status text (Paste.readReply ⟨status, .ok text⟩) := by
  constructor
  · intro reference
    by_cases succeeds : Succeeds status
    · rw [readReply_of_complete succeeds, parseReference_eq_ok_iff, isWeb_iff, eq_comm]
      exact (and_iff_right succeeds).symm
    · rw [readReply_of_declined succeeds]
      constructor
      · intro published
        cases published
      · rintro ⟨other, _⟩
        exact absurd other succeeds
  · intro declined
    exact readReply_of_declined declined
  · intro succeeds other
    rw [readReply_of_complete succeeds, parseReference_eq, if_neg (mt (isWeb_iff _).mp other)]

private theorem exporter_of_answered {service : Paste.Service}
    {send : Paste.Request → Except String Paste.Reply} {title body : String} {reply : Paste.Reply}
    (answered : send (service.request title body) = .ok reply) :
    service.exporter send title body = Paste.readReply reply := by
  unfold Paste.Service.exporter
  rw [answered]

private theorem performed_of_stored (publish : Exporter) {board : Board} {id : Int} {row : Note}
    (stored : row? board.notes id = some row) (now : Int) (form : Form) :
    (Board.perform (some publish) board now (.note .confirmPaste id) form).1 =
      ((publish (row.title ++ " (ID:" ++ toString id ++ ")") row.text).map
        Response.found).mapError Refusal.ofExportError := by
  have performed := sendAway_eq publish board id
  rw [stored] at performed
  refine (congrArg Prod.fst performed).trans ?_
  dsimp only
  cases publish (row.title ++ " (ID:" ++ toString id ++ ")") row.text <;> rfl

/-- The export of a note sends a form that is read back as its text and its title with its id, and
nothing else. What comes of the export is what the reply to this request is taken for: a complete
one is a reference only if its status reports success and its text, without the white space around
it, is a URL of the web. -/
theorem note_published (service : Paste.Service)
    (send : Paste.Request → Except String Paste.Reply) (note : Note) :
    let title := note.title ++ " (ID:" ++ toString note.id ++ ")"
    let request := service.request title note.text
    let outcome := service.exporter send title note.text
    Form.parse none request.body = ⟨[("content", note.text), ("title", title)]⟩ ∧
    (∀ (board : Board) (now : Int) (form : Form), row? board.notes note.id = some note →
      (Board.perform (some (service.exporter send)) board now (.note .confirmPaste note.id) form).1 =
        (outcome.map Response.found).mapError Refusal.ofExportError) ∧
    ∀ status text, send request = .ok ⟨status, .ok text⟩ → Classified status text outcome := by
  intro title request outcome
  refine ⟨?_, ?_, ?_⟩
  · exact FormRoundTrip.parse_encodePairs [("content", note.text), ("title", title)]
  · intro board now form stored
    exact performed_of_stored (service.exporter send) stored now form
  · intro status text answered
    have taken : outcome = Paste.readReply ⟨status, .ok text⟩ := exporter_of_answered answered
    rw [taken]
    exact readReply_classified status text

namespace Publishing

def note : Note := ⟨7, "a&title=b", "50%\u0000+é\n=", 5, 6⟩

def service : Paste.Service where
  endpoint := ⟨"http".toList, some ⟨[], [], some (.name "paste.example".toList), none⟩,
    .segments [[]], none, none⟩

def send (request : Paste.Request) : Except String Paste.Reply :=
  if request.method = "POST" then .ok ⟨201, .ok " http://paste.example/r\n"⟩
  else .error "connection refused"

def board : Board :=
  { Board.new 0 fun _ => 0 with notes := ⟨[note], List.pairwise_singleton _ note⟩ }

theorem separators_published :
    row? board.notes note.id = some note ∧
    send (service.request "a&title=b (ID:7)" note.text) =
      .ok ⟨201, .ok " http://paste.example/r\n"⟩ ∧
    (Form.parse none (service.request "a&title=b (ID:7)" note.text).body).get? "title" =
      some "a&title=b (ID:7)" ∧
    (Board.perform (some (service.exporter send)) board 9 (.note .confirmPaste 7) ⟨[]⟩).1 =
      .ok (.found "http://paste.example/r") := by
  have stored : row? board.notes note.id = some note := by decide +kernel
  have named : note.title ++ " (ID:" ++ toString note.id ++ ")" = "a&title=b (ID:7)" := by
    decide +kernel
  have answered : send (service.request "a&title=b (ID:7)" note.text) =
      .ok ⟨201, .ok " http://paste.example/r\n"⟩ := rfl
  obtain ⟨carried, performed, classified⟩ := note_published service send note
  rw [named] at carried performed classified
  have outcome := (classified 201 _ answered).published "http://paste.example/r"
  have published := outcome.mpr ⟨⟨by decide, by decide⟩, by decide +kernel, (isWeb_iff _).mp (by decide +kernel)⟩
  refine ⟨stored, answered, ?_, ?_⟩
  · rw [carried]
    rfl
  · have responded := performed board 9 ⟨[]⟩ stored
    rwa [published] at responded

end Publishing

end NoteBoard.Proofs.PasteExchange
