import Mathlib.Data.List.Perm.Basic
import NoteBoard.Proofs.GateCheck
import NoteBoard.Proofs.MutationSafety

/-! Boards that differ in the secrets of past tokens only. A new secret is drawn without a look at
the old ones, and a secret on record is only ever compared with a submitted one. So two such boards
go the same way as long as the comparisons come out alike, with the secrets they differ in left
behind. -/

namespace NoteBoard.Proofs.PastSecrets
open GateCheck MutationSafety PerformEffects RequestOutcome

/-- Two issuers that differ at most in the secrets of some ids. They have given out tokens of the
same ids and draw the same bits from now on. -/
structure IssuersAlike (past : Nat → Prop) (issuer twin : Issuer) : Prop where
  draws : twin.draws = issuer.draws
  position : twin.position = issuer.position
  nextId : twin.nextId = issuer.nextId
  known : ∀ id, id ∈ twin.secrets ↔ id ∈ issuer.secrets
  elsewhere : ∀ id, ¬ past id → twin.secrets[id]? = issuer.secrets[id]?

section issuers
variable {past : Nat → Prop} {issuer twin : Issuer}

theorem IssuersAlike.size (alike : IssuersAlike past issuer twin) : twin.size = issuer.size := by
  unfold Issuer.size
  have perm : twin.secrets.keys.Perm issuer.secrets.keys := by
    apply (List.perm_ext_iff_of_nodup ?_ ?_).mpr
    · intro id
      rw [Std.TreeMap.mem_keys, Std.TreeMap.mem_keys, alike.known]
    · exact Std.TreeMap.nodup_keys
    · exact Std.TreeMap.nodup_keys
  rw [← Std.TreeMap.length_keys, ← Std.TreeMap.length_keys, perm.length_eq]

theorem IssuersAlike.token (alike : IssuersAlike past issuer twin) :
    twin.issue.1 = issuer.issue.1 := by
  unfold Issuer.issue
  rw [alike.draws, alike.position, alike.nextId]

/-- The secret that both give out next is none of those they differ in. -/
theorem IssuersAlike.issue (alike : IssuersAlike past issuer twin) :
    IssuersAlike past issuer.issue.2 twin.issue.2 := by
  have record : ∀ id, twin.issue.2.secrets[id]? =
      if id = issuer.nextId then some issuer.issue.1.secret else twin.secrets[id]? := by
    intro id
    rw [IssuerHistory.issue_record, alike.token, alike.nextId]
  refine ⟨alike.draws, ?_, ?_, ?_, ?_⟩
  · unfold Issuer.issue
    rw [alike.draws, alike.position]
  · exact congrArg (· + 1) alike.nextId
  · intro id
    rw [← Std.TreeMap.isSome_getElem?_iff_mem, ← Std.TreeMap.isSome_getElem?_iff_mem, record,
      IssuerHistory.issue_record]
    split
    · rfl
    · rw [Std.TreeMap.isSome_getElem?_iff_mem, Std.TreeMap.isSome_getElem?_iff_mem, alike.known]
  · intro id other
    rw [record, IssuerHistory.issue_record, alike.elsewhere id other]

end issuers

/-- Two boards that differ at most in the secrets of some ids. -/
structure Alike (past : Nat → Prop) (board twin : Board) : Prop where
  throttle : twin.throttle = board.throttle
  notes : twin.notes = board.notes
  exports : twin.exports = board.exports
  metrics : twin.metrics = board.metrics
  issuer : IssuersAlike past board.issuer twin.issuer

section boards
variable {past : Nat → Prop} {board twin : Board}

theorem Alike.issue (alike : Alike past board twin) : Alike past board.issue.2 twin.issue.2 := by
  refine ⟨alike.throttle, alike.notes, alike.exports, ?_, alike.issuer.issue⟩
  change twin.metrics.recordTokenIssued twin.issuer.issue.2.size =
    board.metrics.recordTokenIssued board.issuer.issue.2.size
  rw [alike.metrics, alike.issuer.issue.size]

theorem Alike.perform (alike : Alike past board twin) (exporter : Option Exporter) (now : Int)
    (route : Route) (form : Form) :
    (Board.perform exporter twin now route form).1 =
        (Board.perform exporter board now route form).1 ∧
      Alike past (Board.perform exporter board now route form).2
        (Board.perform exporter twin now route form).2 := by
  cases answered : tokenPage? board.notes route with
  | some page =>
    have twice : tokenPage? twin.notes route = some page := by rwa [alike.notes]
    rw [perform_of_issued answered, perform_of_issued twice]
    refine ⟨?_, alike.issue⟩
    change Except.ok (Response.page (page twin.issuer.issue.1)) =
      .ok (.page (page board.issuer.issue.1))
    rw [alike.issuer.token]
  | none =>
    have own := perform_of_unissued answered rfl exporter now form
    rw [perform_of_unissued answered alike.notes]
    refine ⟨rfl, ?_⟩
    rw [own]
    exact ⟨alike.throttle, rfl, congrArg (· ++ _) alike.exports, alike.metrics,
      alike.issuer⟩

theorem Alike.dispatch (alike : Alike past board twin) (server : Server) (arrival : Arrival)
    (route : Route) (form : Form) :
    (server.dispatch arrival twin route form).1 = (server.dispatch arrival board route form).1 ∧
      Alike past (server.dispatch arrival board route form).2
        (server.dispatch arrival twin route form).2 := by
  obtain ⟨same, after⟩ := alike.perform server.exporter arrival.now route form
  refine ⟨?_, after⟩
  unfold Server.dispatch
  simp only [same, alike.exports, after.exports]

theorem Alike.passed (alike : Alike past board twin) (clock : Nat)
    (ruling : Option (Except Refusal Route)) :
    Alike past (GateCheck.passed board clock ruling) (GateCheck.passed twin clock ruling) := by
  refine ⟨?_, alike.notes, alike.exports, ?_, alike.issuer⟩
  · change (twin.throttle.acquire clock).2 = (board.throttle.acquire clock).2
    rw [alike.throttle]
  · change counted twin.metrics ruling = counted board.metrics ruling
    rw [alike.metrics]

theorem Alike.verdict (alike : Alike past board twin) (table : RouteTable) (clock : Nat)
    (path : String) {body : Option (Except Refusal (Option Token))}
    (agreed : ∀ candidate, body = some (.ok candidate) →
      twin.holds candidate = board.holds candidate) :
    GateCheck.verdict table twin clock path body =
      GateCheck.verdict table board clock path body := by
  unfold GateCheck.verdict
  rw [alike.throttle]
  cases table.find path with
  | error error => rfl
  | ok route =>
    rcases body with _ | refusal | candidate
    · rfl
    · rfl
    · simp only [agreed candidate rfl]

theorem Alike.finish (alike : Alike past board twin) (label : String)
    (result : Option (Except Refusal Response)) :
    let finished := Server.finish label result board
    let again := Server.finish label result twin
    again.1 = finished.1 ∧ Alike past finished.2 again.2 := by
  cases result with
  | none => exact ⟨rfl, alike⟩
  | some result =>
    refine ⟨rfl, alike.throttle, alike.notes, alike.exports, ?_, alike.issuer⟩
    change twin.metrics.recordRequest .. = board.metrics.recordRequest ..
    rw [alike.metrics]

theorem Alike.followed (alike : Alike past board twin) (server : Server) (arrival : Arrival)
    (request : Request) (label : String) (ruling : Option (Except Refusal Route)) :
    let done := GateCheck.followed server arrival request label ruling board
    let again := GateCheck.followed server arrival request label ruling twin
    again.1 = done.1 ∧ Alike past done.2 again.2 := by
  rcases ruling with _ | refusal | route
  · exact ⟨rfl, alike⟩
  · exact alike.finish label (some (.error refusal))
  · obtain ⟨same, after⟩ := alike.dispatch server arrival route
      (Form.parse request.query request.body)
    simp only [GateCheck.followed, same]
    exact after.finish label _

theorem Alike.answer (alike : Alike past board twin) (server : Server) (arrival : Arrival)
    {request : Request}
    (agreed : twin.holds (Form.parse request.query request.body).token? =
      board.holds (Form.parse request.query request.body).token?) :
    let answered := server.answer arrival board request
    let again := server.answer arrival twin request
    again.1 = answered.1 ∧ Alike past answered.2 again.2 := by
  have sameRuling : ruling server arrival twin request = ruling server arrival board request := by
    apply alike.verdict
    intro candidate brought
    obtain ⟨read, came, same⟩ := Option.map_eq_some_iff.mp brought
    cases read with
    | error refusal => cases same
    | ok form =>
      obtain ⟨rfl, _⟩ := form_of_readForm? came
      cases same
      exact agreed
  have sameLabel : label server arrival twin request = label server arrival board request := by
    unfold label
    rw [alike.throttle]
  rw [answer_eq, answer_eq, sameRuling, sameLabel]
  exact (alike.passed ..).followed ..

/-- What two boards that differ in past secrets have in common after a request. -/
structure Confined (past : Nat → Prop) (board twin : Board) (served again : Reply × Board) :
    Prop where
  response : again.1.response = served.1.response
  contentTypeOptions : again.1.contentTypeOptions = served.1.contentTypeOptions
  frameOptions : again.1.frameOptions = served.1.frameOptions
  after : Alike past served.2 again.2
  /-- The one secret that an answer owes to the issuer is that of the token it issues. -/
  issued : served.2.issuer = board.issuer ∨
    served.2.issuer = board.issuer.issue.2 ∧ twin.issuer.issue.1 = board.issuer.issue.1 ∧
      ∃ document, served.1.response = .page document ∧
        Page.tokenFields board.issuer.issue.1 <:+: document

end boards

/-- Two boards that differ at most in the secrets of past tokens answer a request alike if its token
holds for both or for neither, whatever id the request is given, and differ at most in the same
secrets afterwards. So no answer has anything of a secret but of that of the token it issues. -/
theorem past_secrets_confined (server : Server) {past : Nat → Prop} {board twin : Board}
    (alike : Alike past board twin) (arrival : Arrival) (freshId : List UInt8) (request : Request)
    (agreed : twin.holds (Form.parse request.query request.body).token? =
      board.holds (Form.parse request.query request.body).token?) :
    Confined past board twin (server.serve arrival board request)
      (server.serve { arrival with freshId } twin request) := by
  have issued : (server.serve arrival board request).2.issuer = board.issuer ∨
      (server.serve arrival board request).2.issuer = board.issuer.issue.2 ∧
        twin.issuer.issue.1 = board.issuer.issue.1 ∧
        ∃ document, (server.serve arrival board request).1.response = .page document ∧
          Page.tokenFields board.issuer.issue.1 <:+: document := by
    rcases issuer_of_outcome (serve_outcome server arrival board request) with
      same | ⟨advanced, page⟩
    · exact Or.inl same
    · exact Or.inr ⟨advanced, alike.issuer.token, page⟩
  obtain ⟨same, after⟩ :
      (server.answer { arrival with freshId } twin request).1 =
          (server.answer arrival board request).1 ∧
        Alike past (server.answer arrival board request).2
          (server.answer { arrival with freshId } twin request).2 :=
    alike.answer server arrival agreed
  unfold Server.serve at issued ⊢
  generalize server.declaresTooMuch request = tooLong at issued ⊢
  cases tooLong with
  | true => exact ⟨rfl, rfl, rfl, alike, issued⟩
  | false =>
    simp only [Bool.false_eq_true, if_false] at issued ⊢
    generalize server.answer arrival board request = answered at same after issued ⊢
    generalize server.answer { arrival with freshId } twin request = again at same after ⊢
    obtain ⟨response, last⟩ := answered
    obtain ⟨twice, other⟩ := again
    change twice = response at same
    subst same
    cases twice with
    | none => exact ⟨rfl, rfl, rfl, after, issued⟩
    | some response => exact ⟨rfl, rfl, rfl, after, issued⟩

namespace Rekeyed

def board : Board :=
  { Server.newBoard {} fun _ => 0 with notes := (Store.empty.add 0 "mine" "").2 }.issue.2

/-- The board with another secret for that token. -/
def twin : Board :=
  { board with issuer := { board.issuer with secrets := board.issuer.secrets.insert 0 "other" } }

theorem board_alike : Alike (· = 0) board twin := by
  refine ⟨rfl, rfl, rfl, rfl, rfl, rfl, rfl, ?_, ?_⟩
  · intro id
    change id ∈ board.issuer.secrets.insert 0 "other" ↔ id ∈ board.issuer.secrets
    have stored : 0 ∈ board.issuer.secrets := Std.TreeMap.mem_insert_self
    rw [Std.TreeMap.mem_insert, Nat.compare_eq_eq, or_iff_right_iff_imp]
    rintro rfl
    exact stored
  · intro id later
    change (board.issuer.secrets.insert 0 "other")[id]? = board.issuer.secrets[id]?
    rw [Std.TreeMap.getElem?_insert, if_neg (by rw [Nat.compare_eq_eq]; exact Ne.symm later)]

def request : Request where
  method := "GET"
  path := "/EditNote/1"
  query := none
  headers := []
  declaredLength := none
  body := []
  ending := .complete

end Rekeyed

theorem rekeyed_confined :
    let server := Server.ofConfig {} none
    let served := server.serve ⟨7, 0, [], false⟩ Rekeyed.board Rekeyed.request
    let again := server.serve ⟨7, 0, [1], false⟩ Rekeyed.twin Rekeyed.request
    Alike (· = 0) Rekeyed.board Rekeyed.twin ∧
      Rekeyed.twin.holds (Form.parse Rekeyed.request.query Rekeyed.request.body).token? =
        Rekeyed.board.holds (Form.parse Rekeyed.request.query Rekeyed.request.body).token? ∧
      Rekeyed.twin.issuer.secrets[0]? ≠ Rekeyed.board.issuer.secrets[0]? ∧
      again.1.response = served.1.response ∧ served.1.response.status = 200 := by
  intro server served again
  have neither : Rekeyed.twin.holds (Form.parse Rekeyed.request.query Rekeyed.request.body).token? =
      Rekeyed.board.holds (Form.parse Rekeyed.request.query Rekeyed.request.body).token? := by
    decide +kernel
  have confined :=
    past_secrets_confined server Rekeyed.board_alike ⟨7, 0, [], false⟩ [1] Rekeyed.request
    neither
  exact ⟨Rekeyed.board_alike, neither, by decide +kernel, confined.response, by decide +kernel⟩

end NoteBoard.Proofs.PastSecrets
