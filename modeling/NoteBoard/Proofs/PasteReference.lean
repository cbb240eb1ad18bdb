import Mathlib.Data.List.DropRight
import NoteBoard.Proofs.PerformEffects
import NoteBoard.Proofs.RequestOutcome
import NoteBoard.Proofs.Utf8RoundTrip

/-! The reference that an export comes back with. It is checked as a URL and then sent in a header,
and the two take different texts: a URL is read without the tabs and line breaks in it and with its
other controls in percent form, while a header takes a text as it stands. A reference between the
two is lost after the note has been published. -/

namespace NoteBoard.Proofs.PasteReference
open NoteTable PerformEffects RequestOutcome

structure Trimmed (text : List Char) : Prop where
  first : ∀ c, text.head? = some c → Text.isBlank c = false
  last : ∀ c, text.getLast? = some c → Text.isBlank c = false

private theorem trimmed_trimChars (text : List Char) : Trimmed (Text.trimChars text) := by
  constructor
  · intro c first
    obtain ⟨rest, start⟩ := List.rdropWhile_prefix Text.isBlank (text.dropWhile Text.isBlank)
    have same : (text.dropWhile Text.isBlank).head? = some c := by
      rw [← start, List.head?_append]
      change (Text.trimChars text).head?.or rest.head? = some c
      rw [first]
      rfl
    have kept := List.head?_dropWhile_not Text.isBlank text
    rw [same] at kept
    exact kept
  · intro c last
    have nonempty : Text.trimChars text ≠ [] := by
      intro empty
      rw [empty] at last
      cases last
    rw [List.getLast?_eq_some_getLast nonempty, Option.some.injEq] at last
    subst last
    exact Bool.eq_false_iff.mpr (List.rdropWhile_last_not _ _ nonempty)

theorem Trimmed.trimChars_eq {text : List Char} (trimmed : Trimmed text) :
    Text.trimChars text = text := by
  have start : text.dropWhile Text.isBlank = text := by
    cases text with
    | nil => rfl
    | cons c text => exact List.dropWhile_cons_of_neg (by simp [trimmed.first c rfl])
  have finish : text.rdropWhile Text.isBlank = text := by
    rw [List.rdropWhile_eq_self_iff]
    intro nonempty
    simp [trimmed.last _ (List.getLast?_eq_some_getLast nonempty)]
  change (text.dropWhile Text.isBlank).rdropWhile Text.isBlank = text
  rw [start, finish]

theorem Trimmed.insert {before after : List Char} (trimmed : Trimmed (before ++ after))
    (started : before ≠ []) (unfinished : after ≠ []) (c : Char) :
    Trimmed (before ++ c :: after) := by
  obtain ⟨first, before, rfl⟩ := List.exists_cons_of_ne_nil started
  obtain ⟨next, after, rfl⟩ := List.exists_cons_of_ne_nil unfinished
  constructor
  · intro d head
    exact trimmed.first d head
  · intro d final
    apply trimmed.last d
    rw [List.getLast?_append] at final ⊢
    rwa [List.getLast?_cons_cons] at final

/-! A URL is read without the tabs and line breaks in it, wherever they stand. -/

section reading
variable {drops keeps : Char → Bool}

theorem filter_dropWhile (within : ∀ c, keeps c = false → drops c = true) (text : List Char) :
    (text.dropWhile drops).filter keeps = (text.filter keeps).dropWhile drops := by
  induction text with
  | nil => rfl
  | cons c text ih =>
    cases dropped : drops c with
    | true =>
      rw [List.dropWhile_cons_of_pos dropped, ih]
      cases kept : keeps c with
      | true => rw [List.filter_cons_of_pos kept, List.dropWhile_cons_of_pos dropped]
      | false => rw [List.filter_cons_of_neg (by simp [kept])]
    | false =>
      have kept : keeps c = true := by
        by_contra other
        rw [within c (Bool.not_eq_true _ ▸ other)] at dropped
        cases dropped
      have stays : ¬ drops c = true := by simp [dropped]
      rw [List.dropWhile_cons_of_neg stays, List.filter_cons_of_pos kept,
        List.dropWhile_cons_of_neg stays]

private theorem filter_rdropWhile (within : ∀ c, keeps c = false → drops c = true)
    (text : List Char) :
    (text.rdropWhile drops).filter keeps = (text.filter keeps).rdropWhile drops := by
  unfold List.rdropWhile
  rw [List.filter_reverse, filter_dropWhile within, List.filter_reverse]

end reading

def legible (text : List Char) : List Char := text.filter (! Url.isDropped ·)

theorem isTrimmed_of_isDropped (c : Char) (dropped : (!Url.isDropped c) = false) :
    Url.isTrimmed c = true := by
  simp only [Url.isDropped, Bool.not_eq_eq_eq_not, Bool.not_false, Bool.or_eq_true, beq_iff_eq]
    at dropped
  rcases dropped with (rfl | rfl) | rfl
  all_goals rfl

theorem significant_eq (input : List Char) :
    Url.significant input =
      ((legible input).dropWhile Url.isTrimmed).rdropWhile Url.isTrimmed := by
  change ((input.dropWhile Url.isTrimmed).rdropWhile Url.isTrimmed).filter (! Url.isDropped ·) = _
  rw [filter_rdropWhile isTrimmed_of_isDropped, filter_dropWhile isTrimmed_of_isDropped]
  rfl

private theorem parse_congr {first second : String}
    (same : legible first.toList = legible second.toList) :
    Url.parse first = Url.parse second := by
  unfold Url.parse Url.parseChars
  rw [significant_eq, significant_eq, same]

def isWeb (text : String) : Bool := (Url.parse text).toOption.any Url.isHttp

theorem parseReference_eq (raw : String) : Paste.parseReference raw =
    if isWeb (Text.trim raw) then .ok (Text.trim raw)
    else .error (.invalidReference (Text.trim raw)) := by
  unfold Paste.parseReference isWeb
  dsimp only
  cases Url.parse (Text.trim raw) with
  | error cause => rfl
  | ok url => rfl

theorem parseReference_eq_ok_iff {raw reference : String} :
    Paste.parseReference raw = .ok reference ↔
      reference = Text.trim raw ∧ isWeb reference = true := by
  rw [parseReference_eq]
  constructor
  · intro checked
    split at checked
    next web =>
      cases checked
      exact ⟨rfl, web⟩
    next => cases checked
  · rintro ⟨rfl, web⟩
    rw [if_pos web]

/-- What a header value may hold: tabs, but no other controls. -/
def Sendable (text : String) : Prop :=
  ∀ byte ∈ Utf8.encode text.toList, byte.toNat = 0x09 ∨ 0x20 ≤ byte.toNat ∧ byte.toNat ≠ 0x7F

private theorem sendable_char (c : Char) :
    (c == '\t' || (0x20 ≤ c.toNat && c.toNat != 0x7F)) = true ↔
      ∀ byte ∈ Utf8.encodeChar c,
        byte.toNat = 0x09 ∨ 0x20 ≤ byte.toNat ∧ byte.toNat ≠ 0x7F := by
  have tab : c = '\t' ↔ c.toNat = 0x09 := Char.toNat_inj.symm
  simp only [Bool.or_eq_true, Bool.and_eq_true, beq_iff_eq, decide_eq_true_eq, bne_iff_ne, tab]
  by_cases large : 0x80 ≤ c.toNat
  · constructor
    · intro _ byte member
      have high := Utf8RoundTrip.high_of_mem_encodeChar large member
      omega
    · intro _
      omega
  · have small : c.toNat < 0x80 := Nat.lt_of_not_le large
    have only : Utf8.encodeChar c = [Utf8.byte c.toNat] := if_pos small
    rw [only, List.forall_mem_singleton, Utf8RoundTrip.byte_toNat (by omega)]

/-- Only ASCII has controls, so characters can be looked at in place of bytes. -/
theorem isHeaderValue_iff (text : String) :
    Response.isHeaderValue text = true ↔ Sendable text := by
  unfold Response.isHeaderValue Sendable Utf8.encode
  simp only [List.all_eq_true, sendable_char, List.mem_flatMap, forall_exists_index, and_imp]
  constructor
  · intro each byte c member written
    exact each c member byte written
  · intro each c member byte written
    exact each byte c member written

theorem found_of_not_sendable {target : String} (unsendable : ¬ Sendable target) :
    Response.found target =
      ⟨302, some "text/plain; charset=utf-8", none, "failed to parse header value"⟩ := by
  unfold Response.found
  rw [if_neg (mt (isHeaderValue_iff target).mp unsendable)]
  rfl

private theorem found_eq_redirect_iff (target : String) :
    Response.found target = ⟨302, none, some target, ""⟩ ↔ Sendable target := by
  constructor
  · intro redirected
    by_contra unsendable
    rw [found_of_not_sendable unsendable] at redirected
    cases redirected
  · intro sendable
    unfold Response.found
    rw [if_pos ((isHeaderValue_iff target).mpr sendable)]

/-- Every reference that is accepted has others beside it, each with a line break somewhere inside,
that are accepted as well and that no header can hold. -/
private theorem broken_reference_accepted {raw reference : String}
    (checked : Paste.parseReference raw = .ok reference) {before after : List Char}
    (cut : reference.toList = before ++ after) (started : before ≠ []) (unfinished : after ≠ [])
    {c : Char} (lineBreak : c = '\n' ∨ c = '\r') :
    let broken := String.ofList (before ++ c :: after)
    Paste.parseReference broken = .ok broken ∧ ¬ Sendable broken := by
  intro broken
  obtain ⟨trimmedRaw, web⟩ := parseReference_eq_ok_iff.mp checked
  constructor
  · rw [parseReference_eq_ok_iff]
    constructor
    · have ends : Trimmed (before ++ after) := by
        rw [← cut, trimmedRaw, Text.trim, String.toList_ofList]
        exact trimmed_trimChars raw.toList
      unfold Text.trim
      rw [String.toList_ofList, (ends.insert started unfinished c).trimChars_eq]
    · have dropped : (!Url.isDropped c) = false := by
        rcases lineBreak with rfl | rfl
        all_goals rfl
      have same : Url.parse broken = Url.parse reference := by
        apply parse_congr
        rw [cut, String.toList_ofList, legible, legible, List.filter_append, List.filter_append,
          List.filter_cons_of_neg (by simp [dropped])]
      unfold isWeb
      rw [same]
      exact web
  · intro sendable
    have held := List.all_eq_true.mp ((isHeaderValue_iff broken).mpr sendable) c
      (by simp [broken])
    rcases lineBreak with rfl | rfl
    all_goals cases held

theorem serve_exported {server : Server} {publish : Exporter}
    (exporter : server.exporter = some publish)
    {arrival : Arrival} {board : Board} {request : Request} {id : Int} {row : Note}
    {reference : String} (stored : row? board.notes id = some row)
    (published : publish (row.title ++ " (ID:" ++ toString id ++ ")") row.text = .ok reference)
    (prompt : arrival.exportLate = false) (accepted : Accepted server arrival board request)
    (found : server.table.find (Request.decodePath request.path) = .ok (.note .confirmPaste id))
    (authorized : board.holds (Form.parse request.query request.body).token? = true) :
    let served := server.serve arrival board request
    served.1.response = .found reference ∧
    served.2.exports =
      board.exports ++ [(row.title ++ " (ID:" ++ toString id ++ ")", row.text)] ∧
    served.2.notes = board.notes := by
  intro served
  obtain ⟨admitted, untouched, answered, finished⟩ :=
    serve_of_accepted accepted found fun _ => authorized
  have there : row? admitted.notes id = some row := by rw [untouched.notes, stored]
  let called := (row.title ++ " (ID:" ++ toString id ++ ")", row.text)
  have performed : Board.sendAway server.exporter admitted id =
      (.ok (.found reference), { admitted with exports := admitted.exports ++ [called] }) := by
    rw [exporter, sendAway_eq, there]
    simp only [published, called]
  replace answered := answered.of_prompt prompt
  change served.1.response = responseOf (Board.sendAway server.exporter admitted id).1 at answered
  change Untouched (Board.sendAway server.exporter admitted id).2 served.2 at finished
  rw [performed] at answered finished
  refine ⟨answered, ?_, finished.notes.trans untouched.notes⟩
  rw [finished.exports, untouched.exports]

/-- An authorized export that succeeds in time is answered with a redirect to the trimmed reference
if and only if a header can hold the reference. Else the answer has the status of a redirect but no
target, and the note is published all the same. -/
theorem export_redirects_iff_sendable (config : Config) (publish : Exporter) (arrival : Arrival)
    (board : Board) (request : Request) {id : Int} {row : Note} {raw reference : String}
    (stored : row? board.notes id = some row)
    (checked : Paste.parseReference raw = .ok reference)
    (published : publish (row.title ++ " (ID:" ++ toString id ++ ")") row.text = .ok reference)
    (prompt : arrival.exportLate = false)
    (accepted : Accepted (Server.ofConfig config (some publish)) arrival board request)
    (found : RouteTable.board.find (Request.decodePath request.path) = .ok (.note .confirmPaste id))
    (authorized : board.holds (Form.parse request.query request.body).token? = true) :
    let served := (Server.ofConfig config (some publish)).serve arrival board request
    (served.1.response = ⟨302, none, some (Text.trim raw), ""⟩ ↔ Sendable (Text.trim raw)) ∧
    (¬ Sendable (Text.trim raw) → served.1.response =
      ⟨302, some "text/plain; charset=utf-8", none, "failed to parse header value"⟩) ∧
    served.2.exports =
      board.exports ++ [(row.title ++ " (ID:" ++ toString id ++ ")", row.text)] ∧
    served.2.notes = board.notes := by
  intro served
  obtain ⟨rfl, _⟩ := parseReference_eq_ok_iff.mp checked
  obtain ⟨answered, exported, kept⟩ : served.1.response = .found (Text.trim raw) ∧ _ ∧ _ :=
    serve_exported rfl stored published prompt accepted found authorized
  rw [answered]
  exact ⟨found_eq_redirect_iff _, found_of_not_sendable, exported, kept⟩

namespace Pasting

def publish (reply : String) : Exporter := fun _ _ => Paste.parseReference reply

def server (reply : String) : Server := Server.ofConfig {} (some (publish reply))

def row : Note := ⟨1, "Recipe", "flour", 5, 6⟩

def board : Board :=
  { (Server.newBoard {} fun _ => 0).issue.2 with notes := ⟨[row], List.pairwise_singleton _ row⟩ }

def token : Token := (Server.newBoard {} fun _ => 0).issue.1

def arrival : Arrival := ⟨7, 0, [], false⟩

def confirm : Request :=
  ⟨"POST", "/ConfirmPasteBinNote/1", none, [], none,
    Form.encodePairs [(Token.idField, toString token.id), (Token.secretField, token.secret)],
    .complete⟩

theorem stored : row? board.notes 1 = some row := by decide +kernel

theorem confirm_accepted (reply : String) : Accepted (server reply) arrival board confirm := by
  have ready : board.throttle.accepts arrival.clock = true := rfl
  have short : confirm.body.length ≤ (server reply).maxBodySize := by
    change confirm.body.length ≤ 65536
    decide +kernel
  exact ⟨by simp [confirm], short, rfl, ready⟩

theorem confirm_found :
    RouteTable.board.find (Request.decodePath confirm.path) = .ok (.note .confirmPaste 1) := by
  decide +kernel

theorem confirm_authorized : board.holds (Form.parse confirm.query confirm.body).token? = true := by
  decide +kernel

end Pasting

theorem trimmed_reference_redirects :
    row? Pasting.board.notes 1 = some Pasting.row ∧
    Paste.parseReference "http://paste.example/r\n" = .ok "http://paste.example/r" ∧
    Pasting.arrival.exportLate = false ∧
    Accepted (Pasting.server "http://paste.example/r\n") Pasting.arrival Pasting.board
      Pasting.confirm ∧
    RouteTable.board.find (Request.decodePath Pasting.confirm.path) =
      .ok (.note .confirmPaste 1) ∧
    Pasting.board.holds (Form.parse Pasting.confirm.query Pasting.confirm.body).token? = true ∧
    ((Pasting.server "http://paste.example/r\n").serve Pasting.arrival Pasting.board
      Pasting.confirm).1.response = ⟨302, none, some "http://paste.example/r", ""⟩ := by
  have checked : Paste.parseReference "http://paste.example/r\n" =
      .ok "http://paste.example/r" := by
    rw [parseReference_eq_ok_iff]
    decide +kernel
  have accepted := Pasting.confirm_accepted "http://paste.example/r\n"
  obtain ⟨redirects, _⟩ := export_redirects_iff_sendable {} (Pasting.publish _) Pasting.arrival
    Pasting.board Pasting.confirm Pasting.stored checked checked rfl accepted Pasting.confirm_found
    Pasting.confirm_authorized
  have trimmed : Text.trim "http://paste.example/r\n" = "http://paste.example/r" := by
    decide +kernel
  rw [trimmed] at redirects
  refine ⟨Pasting.stored, checked, rfl, accepted, Pasting.confirm_found, Pasting.confirm_authorized, ?_⟩
  unfold Pasting.server
  rw [redirects, ← isHeaderValue_iff]
  decide +kernel

/-- The line feed inside is left out when the reference is read as a URL. -/
theorem reference_lost_to_line_feed :
    Paste.parseReference "http://paste.example/r\ns" = .ok "http://paste.example/r\ns" ∧
    let served := (Pasting.server "http://paste.example/r\ns").serve Pasting.arrival Pasting.board
      Pasting.confirm
    served.1.response.location = none ∧ served.2.exports = [("Recipe (ID:1)", "flour")] := by
  have checked : Paste.parseReference "http://paste.example/r\ns" =
      .ok "http://paste.example/r\ns" := by
    rw [parseReference_eq_ok_iff]
    decide +kernel
  have unsendable : ¬ Sendable "http://paste.example/r\ns" := by
    rw [← isHeaderValue_iff]
    decide +kernel
  obtain ⟨answered, exported, _⟩ := @serve_exported (Pasting.server _) (Pasting.publish _) rfl
    Pasting.arrival Pasting.board Pasting.confirm 1 Pasting.row _ Pasting.stored checked rfl
    (Pasting.confirm_accepted _) Pasting.confirm_found Pasting.confirm_authorized
  refine ⟨checked, ?_, ?_⟩
  · rw [answered, found_of_not_sendable unsendable]
  · rw [exported]
    decide +kernel

end NoteBoard.Proofs.PasteReference
