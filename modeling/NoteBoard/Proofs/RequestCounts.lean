import Mathlib.Algebra.BigOperators.Group.Finset.Piecewise
import NoteBoard.Proofs.GateCheck
import NoteBoard.Proofs.ResponseLayers

/-! What the metrics count over a run of a server. A request that reaches the gate is recorded when
its answer is known, once on every way out. One that is given up before that has no answer of the
gate and is not recorded. What the gate counts itself goes with one status each, the throttle with
429 and the token check with 403, and no route answers with either. -/

namespace NoteBoard.Proofs.RequestCounts
open GateCheck MutationSafety PerformEffects RequestOutcome ResponseLayers

section tally
variable {κ : Type} [DecidableEq κ]

theorem getD_lookup_cons (key other : κ) (count : Nat) (entries : List (κ × Nat)) :
    (((key, count) :: entries).lookup other).getD 0 =
      if other = key then count else (entries.lookup other).getD 0 := by
  rw [List.lookup_cons]
  by_cases same : other = key
  · simp [same]
  · simp [same, beq_eq_false_iff_ne.mpr same]

private theorem getD_lookup_bumpEntries (key other : κ) (entries : List (κ × Nat)) :
    ((Tally.bumpEntries key entries).lookup other).getD 0 =
      (entries.lookup other).getD 0 + if other = key then 1 else 0 := by
  induction entries with
  | nil =>
    rw [Tally.bumpEntries, getD_lookup_cons]
    simp
  | cons entry entries ih =>
    rw [Tally.bumpEntries, getD_lookup_cons]
    split
    next found =>
      rw [getD_lookup_cons, found]
      split <;> rfl
    next missed =>
      rw [getD_lookup_cons, ih]
      split
      next first => rw [if_neg (first ▸ missed), Nat.add_zero]
      next => rfl

theorem count_bump (tally : Tally κ) (key other : κ) :
    (tally.bump key).count other = tally.count other + if other = key then 1 else 0 :=
  getD_lookup_bumpEntries key other tally.entries

end tally

theorem count_singleton {κ : Type} [BEq κ] [LawfulBEq κ] [DecidableEq κ] (key other : κ) :
    [key].count other = if other = key then 1 else 0 := by
  rw [List.count_singleton]
  exact if_congr (beq_iff_eq.trans eq_comm) rfl rfl

/-- The label and the status under which an event is counted, if it is a request that the gate
answers. The limit of lengths and the time limit answer requests themselves. -/
def logged? (server : Server) (board : Board) : Server.Event → Option (String × Nat)
  | .issue => none
  | .request arrival request =>
    let status := (server.serve arrival board request).1.response.status
    if server.declaresTooMuch request ∨ status = 408 then none
    else some (label server arrival board request, status)

def log (server : Server) (board : Board) : List Server.Event → List (String × Nat)
  | [] => []
  | event :: later => (logged? server board event).toList ++ log server (server.step board event) later

structure Counts (log : List (String × Nat)) (before after : Metrics) : Prop where
  requests : ∀ key, after.requests.count key = before.requests.count key + log.count key
  durations : ∀ label,
    after.durations.count label = before.durations.count label + (log.map Prod.fst).count label
  throttled : after.throttled = before.throttled + (log.map Prod.snd).count 429
  tokenRejections : after.tokenRejections = before.tokenRejections + (log.map Prod.snd).count 403

theorem Counts.nil {before after : Metrics} (requests : after.requests = before.requests)
    (durations : after.durations = before.durations) (throttled : after.throttled = before.throttled)
    (tokenRejections : after.tokenRejections = before.tokenRejections) :
    Counts [] before after := by
  constructor <;> simp [*]

theorem Counts.append {earlier later : List (String × Nat)} {first middle last : Metrics}
    (left : Counts earlier first middle) (right : Counts later middle last) :
    Counts (earlier ++ later) first last := by
  constructor
  · intro key
    rw [right.requests, left.requests, List.count_append, Nat.add_assoc]
  · intro label
    rw [right.durations, left.durations, List.map_append, List.count_append, Nat.add_assoc]
  · rw [right.throttled, left.throttled, List.map_append, List.count_append, Nat.add_assoc]
  · rw [right.tokenRejections, left.tokenRejections, List.map_append, List.count_append,
      Nat.add_assoc]

/-- Only the throttle answers 429, and only the token check 403. -/
private theorem followed_counted {server : Server} {arrival : Arrival} {request : Request}
    {label : String}
    {ruling : Option (Except Refusal Route)} {board : Board} {response : Response}
    (answered : (followed server arrival request label ruling board).1 = some response)
    (metrics : Metrics) :
    (counted metrics ruling).throttled = metrics.throttled + [response.status].count 429 ∧
      (counted metrics ruling).tokenRejections =
        metrics.tokenRejections + [response.status].count 403 := by
  rcases ruling with _ | refusal | route
  · cases answered
  · cases answered
    cases refusal with
    | tooManyRequests | unauthorized | notFound | badRequest | payloadTooLarge | failed =>
      exact ⟨rfl, rfl⟩
  · have carriedOut : response.status ∉ turnedAway := by
      rw [followed, finish_answer] at answered
      obtain ⟨result, done, rfl⟩ := Option.map_eq_some_iff.mp answered
      exact performed_not_turnedAway (dispatch_status done)
    have uncounted : ∀ status ∈ turnedAway, [response.status].count status = 0 := by
      intro status listed
      rw [List.count_eq_zero, List.mem_singleton]
      rintro rfl
      exact carriedOut listed
    exact ⟨by rw [uncounted 429 (by decide)]; rfl, by rw [uncounted 403 (by decide)]; rfl⟩

private theorem answer_counts {server : Server} {arrival : Arrival} {board : Board}
    {request : Request}
    {response : Response} (answered : (server.answer arrival board request).1 = some response) :
    Counts [(label server arrival board request, response.status)] board.metrics
      (server.answer arrival board request).2.metrics := by
  rw [answer_eq] at answered ⊢
  generalize label server arrival board request = label at answered ⊢
  generalize ruling server arrival board request = ruling at answered ⊢
  have recorded := followed_recorded server arrival request label ruling
    (passed board arrival.clock ruling)
  dsimp only at recorded
  rw [answered] at recorded
  obtain ⟨throttled, rejected⟩ := followed_counted answered board.metrics
  obtain ⟨requests, durations, _⟩ := counted_keeps board.metrics ruling
  constructor
  · intro key
    rw [recorded.requests, Option.elim, count_bump, count_singleton, ← requests]
    rfl
  · intro other
    rw [recorded.durations, Option.elim, count_bump, List.map_singleton, count_singleton,
      ← durations]
    rfl
  · exact recorded.throttled.trans throttled
  · exact recorded.tokenRejections.trans rejected

/-- A request that is given up is not counted, whatever it was waiting for. -/
private theorem answer_unmetered {server : Server} {arrival : Arrival} {board : Board}
    {request : Request}
    (unanswered : (server.answer arrival board request).1 = none) :
    (server.answer arrival board request).2.metrics = board.metrics := by
  rw [answer_eq] at unanswered ⊢
  generalize ruling server arrival board request = ruling at unanswered ⊢
  rcases ruling with _ | refusal | route
  · rfl
  · cases unanswered
  · rw [followed, finish_answer, Option.map_eq_none_iff] at unanswered
    rw [followed, unanswered]
    rcases dispatch_cases server arrival (passed board arrival.clock (some (.ok route))) route
      (Form.parse request.query request.body) with done | ⟨_, _, called⟩
    · cases done.symm.trans unanswered
    · exact metrics_of_called called

theorem serve_counts {server : Server} {arrival : Arrival} {board : Board} {request : Request}
    (declared : server.declaresTooMuch request = false)
    (inTime : (server.serve arrival board request).1.response.status ≠ 408) :
    let served := server.serve arrival board request
    Counts [(label server arrival board request, served.1.response.status)] board.metrics
      served.2.metrics := by
  dsimp only
  rw [(serve_response declared arrival board).2]
  rcases serve_cases declared arrival board with ⟨_, late⟩ | ⟨answered, _⟩
  · exact absurd (congrArg Response.status late.response) inTime
  · exact answer_counts answered

theorem serve_unmetered {server : Server} {arrival : Arrival} {board : Board} {request : Request}
    (late : (server.serve arrival board request).1.response.status = 408) :
    (server.serve arrival board request).2.metrics = board.metrics := by
  cases declared : server.declaresTooMuch request with
  | true => rw [(serve_bare declared arrival).board]
  | false =>
    rw [(serve_response declared arrival board).2]
    rcases serve_cases declared arrival board with ⟨unanswered, _⟩ | ⟨_, known⟩
    · exact answer_unmetered unanswered
    · rw [late] at known
      exact absurd known (by decide)

private theorem step_counts (server : Server) (board : Board) (event : Server.Event) :
    Counts (logged? server board event).toList board.metrics (server.step board event).metrics := by
  cases event with
  | issue => exact .nil rfl rfl rfl rfl
  | request arrival request =>
    dsimp only [logged?, Server.step]
    split
    next bypassed =>
      have same : (server.serve arrival board request).2.metrics = board.metrics := by
        rcases bypassed with declared | late
        · rw [(serve_bare declared arrival).board]
        · exact serve_unmetered late
      rw [same]
      exact .nil rfl rfl rfl rfl
    next reached =>
      obtain ⟨declared, inTime⟩ := not_or.mp reached
      exact serve_counts (Bool.eq_false_iff.mpr declared) inTime

private theorem run_counts (server : Server) (board : Board) (events : List Server.Event) :
    Counts (log server board events) board.metrics (server.run board events).metrics := by
  induction events generalizing board with
  | nil => exact .nil rfl rfl rfl rfl
  | cons event later ih => exact (step_counts server board event).append (ih _)

/-- The counts of tokens agree with the counter and the record of the issuer. -/
structure TokensCounted (board : Board) : Prop where
  issued : board.metrics.tokensIssued = board.issuer.nextId
  outstanding : board.metrics.tokensOutstanding = board.issuer.size

theorem TokensCounted.keep {board after : Board} (tokens : TokensCounted board)
    (issuer : after.issuer = board.issuer)
    (issued : after.metrics.tokensIssued = board.metrics.tokensIssued)
    (outstanding : after.metrics.tokensOutstanding = board.metrics.tokensOutstanding) :
    TokensCounted after := by
  constructor
  · rw [issued, issuer, tokens.issued]
  · rw [outstanding, issuer, tokens.outstanding]

theorem TokensCounted.issue {board after : Board} (tokens : TokensCounted board)
    (issuer : after.issuer = board.issuer.issue.2)
    (metrics : after.metrics = board.metrics.recordTokenIssued board.issuer.issue.2.size) :
    TokensCounted after := by
  constructor
  · rw [metrics, issuer]
    exact congrArg (· + 1) tokens.issued
  · rw [metrics, issuer]
    rfl

theorem TokensCounted.perform {board : Board} (tokens : TokensCounted board)
    (exporter : Option Exporter) (now : Int) (route : Route) (form : Form) :
    TokensCounted (Board.perform exporter board now route form).2 := by
  rcases perform_metrics exporter board now route form with ⟨issuer, same⟩ | ⟨issuer, metrics⟩
  · exact tokens.keep issuer (congrArg Metrics.tokensIssued same)
      (congrArg Metrics.tokensOutstanding same)
  · exact tokens.issue issuer metrics

theorem TokensCounted.finish {board : Board} (tokens : TokensCounted board) (label : String)
    (result : Option (Except Refusal Response)) :
    TokensCounted (Server.finish label result board).2 := by
  cases result <;> exact tokens.keep rfl rfl rfl

theorem TokensCounted.answer {board : Board} (tokens : TokensCounted board) (server : Server)
    (arrival : Arrival) (request : Request) :
    TokensCounted (server.answer arrival board request).2 := by
  rw [answer_eq]
  generalize ruling server arrival board request = ruling
  obtain ⟨_, _, issued, outstanding⟩ := counted_keeps board.metrics ruling
  have behind : TokensCounted (passed board arrival.clock ruling) :=
    tokens.keep rfl issued outstanding
  rcases ruling with _ | refusal | route
  · exact behind
  · exact behind.finish _ (some (.error refusal))
  · exact (behind.perform server.exporter arrival.now route
      (Form.parse request.query request.body)).finish _ _

theorem TokensCounted.step {board : Board} (tokens : TokensCounted board) (server : Server)
    (event : Server.Event) : TokensCounted (server.step board event) := by
  cases event with
  | issue => exact tokens.issue rfl rfl
  | request arrival request =>
    change TokensCounted (server.serve arrival board request).2
    cases declared : server.declaresTooMuch request with
    | true => rwa [(serve_bare declared arrival).board]
    | false =>
      rw [(serve_response declared arrival board).2]
      exact tokens.answer server arrival request

theorem TokensCounted.run {board : Board} (tokens : TokensCounted board) (server : Server)
    (events : List Server.Event) : TokensCounted (server.run board events) := by
  induction events generalizing board with
  | nil => exact tokens
  | cons event later ih => exact ih (tokens.step server event)

private theorem nodup_of_records {issuer : Issuer} {history : List Token}
    (records : IssuerHistory.Records issuer history) : history.Nodup := by
  rw [List.Nodup, List.pairwise_iff_getElem]
  intro i j earlier later before same
  have first := records.numbered i _ (List.getElem?_eq_getElem earlier)
  have second := records.numbered j _ (List.getElem?_eq_getElem later)
  rw [same] at first
  omega

theorem status_of_mem_log {server : Server} {board : Board} {events : List Server.Event}
    {entry : String × Nat} (logged : entry ∈ log server board events) : entry.2 ∈ statuses := by
  induction events generalizing board with
  | nil => cases logged
  | cons event later ih =>
    rcases List.mem_append.mp logged with first | rest
    · cases event with
      | issue => cases first
      | request arrival request =>
        simp only [logged?, Option.mem_toList, Option.ite_none_left_eq_some, Option.some.injEq,
          not_or, Bool.not_eq_true] at first
        obtain ⟨⟨declared, inTime⟩, rfl⟩ := first
        rcases serve_cases declared arrival board with ⟨_, late⟩ | ⟨_, known⟩
        · exact absurd (congrArg Response.status late.response) inTime
        · exact known
    · exact ih rest

private theorem sum_count_eq {known : Finset Nat} {log : List (String × Nat)}
    (among : ∀ entry ∈ log, entry.2 ∈ known) (label : String) :
    ∑ status ∈ known, log.count (label, status) = (log.map Prod.fst).count label := by
  induction log with
  | nil => simp
  | cons entry log ih =>
    obtain ⟨first, status⟩ := entry
    obtain ⟨listed, rest⟩ := List.forall_mem_cons.mp among
    change status ∈ known at listed
    have once : ∑ other ∈ known, [(first, status)].count (label, other) =
        [first].count label := by
      simp only [count_singleton, Prod.mk.injEq]
      by_cases same : label = first
      · simp [same, Finset.sum_ite_eq', listed]
      · simp [same]
    calc ∑ other ∈ known, ((first, status) :: log).count (label, other)
        = ∑ other ∈ known, ([(first, status)].count (label, other) +
            log.count (label, other)) := by
          simp only [← List.count_append, List.singleton_append]
      _ = [first].count label + (log.map Prod.fst).count label := by
          rw [Finset.sum_add_distrib, once, ih rest]
      _ = (((first, status) :: log).map Prod.fst).count label := by
          rw [← List.count_append]
          rfl

/-- What the metrics of a server say after a run. -/
structure Accounted (server : Server) (start : Board) (events : List Server.Event) (board : Board) :
    Prop where
  /-- A further request that the gate answers adds one to the counter of its label and its status
  and one sample to the durations of the same label, and nothing to any other. -/
  next : ∀ arrival request, server.declaresTooMuch request = false →
    let served := server.serve arrival board request
    served.1.response.status ≠ 408 →
    (∀ key, served.2.metrics.requests.count key = board.metrics.requests.count key +
      if key = (label server arrival board request, served.1.response.status) then 1 else 0) ∧
    (∀ other, served.2.metrics.durations.count other = board.metrics.durations.count other +
      if other = label server arrival board request then 1 else 0)
  /-- One that is given up leaves no trace. -/
  givenUp : ∀ arrival request, (server.serve arrival board request).1.response.status = 408 →
    (server.serve arrival board request).2.metrics = board.metrics
  /-- Nor does one that the limit of lengths answers itself. -/
  bypassed : ∀ arrival request, server.declaresTooMuch request = true →
    (server.serve arrival board request).2.metrics = board.metrics
  requests : ∀ key, board.metrics.requests.count key = (log server start events).count key
  known : ∀ label, ∀ status ∉ statuses, board.metrics.requests.count (label, status) = 0
  durations : ∀ label, board.metrics.durations.count label =
    ∑ status ∈ statuses.toFinset, board.metrics.requests.count (label, status)
  throttled : board.metrics.throttled = ((log server start events).map Prod.snd).count 429
  tokenRejections :
    board.metrics.tokenRejections = ((log server start events).map Prod.snd).count 403
  tokens : ∃ given : List Token, given.Nodup ∧
    (∀ token, token ∈ given ↔ Issued server start events token) ∧
    board.metrics.tokensIssued = given.length ∧ board.metrics.tokensOutstanding = given.length

private theorem tokens_given (server : Server) {start : Board} {draws : Nat → UInt64}
    (fresh : start.issuer = .new draws) (tokens : TokensCounted start)
    (events : List Server.Event) :
    ∃ given : List Token, given.Nodup ∧
      (∀ token, token ∈ given ↔ Issued server start events token) ∧
      (server.run start events).metrics.tokensIssued = given.length ∧
      (server.run start events).metrics.tokensOutstanding = given.length := by
  have none : IssuerHistory.Records start.issuer [] := fresh ▸ IssuerHistory.records_new draws
  obtain ⟨given, records⟩ := run_records server none events
  rw [List.nil_append] at records
  have counted := tokens.run server events
  refine ⟨given, nodup_of_records records, ?_, ?_, ?_⟩
  · intro token
    rw [← records.validate_iff]
    constructor
    · apply issued_of_validates
      rw [fresh]
      exact validate_new draws
    · exact validates_of_issued server none
  · rw [counted.issued, records.counter]
  · rw [counted.outstanding, records.size]

/-- Over any run of requests and issues on a server, the metrics account for what happened: each
request that the gate answered under its label and its status, by counter and by sample alike, each
429 as throttled, each 403 as a rejected token, and each token that was ever given out as issued and
as outstanding. -/
theorem run_is_accounted (config : Config) (exporter : Option Exporter) (draws : Nat → UInt64)
    (notes : Store) (events : List Server.Event) :
    let server := Server.ofConfig config exporter
    let start := { Server.newBoard config draws with notes }
    Accounted server start events (server.run start events) := by
  intro server start
  have counts := run_counts server start events
  have requests : ∀ key, (server.run start events).metrics.requests.count key =
      (log server start events).count key := by
    intro key
    rw [counts.requests]
    exact Nat.zero_add _
  constructor
  case next =>
    intro arrival request declared served inTime
    have once := serve_counts declared inTime
    constructor
    · intro key
      rw [once.requests, count_singleton]
    · intro other
      rw [once.durations, List.map_singleton, count_singleton]
  case givenUp =>
    intro arrival request late
    exact serve_unmetered late
  case bypassed =>
    intro arrival request declared
    rw [(serve_bare declared arrival).board]
  case requests => exact requests
  case known =>
    intro label status unknown
    rw [requests, List.count_eq_zero]
    intro logged
    exact unknown (status_of_mem_log logged)
  case durations =>
    intro label
    rw [counts.durations]
    simp only [requests]
    rw [sum_count_eq fun entry logged => List.mem_toFinset.mpr (status_of_mem_log logged)]
    exact Nat.zero_add _
  case throttled =>
    rw [counts.throttled]
    exact Nat.zero_add _
  case tokenRejections =>
    rw [counts.tokenRejections]
    exact Nat.zero_add _
  case tokens => exact tokens_given server rfl ⟨rfl, rfl⟩ events

def stalledPost : Request := ⟨"POST", "/", none, [], some 5, [], .late⟩

/-- It passes the gate, where it takes its slot, and is answered without being counted. The same
request is counted if its body comes whole. -/
theorem stalledPost_uncounted :
    let server := Server.ofConfig {} none
    let board := Server.newBoard {} fun _ => 0
    let served := server.serve ⟨7, 3, [], false⟩ board stalledPost
    let inTime := server.serve ⟨7, 3, [], false⟩ board
      { stalledPost with body := List.replicate 5 0x61, ending := .complete }
    server.declaresTooMuch stalledPost = false ∧
      served.1.response.status = 408 ∧ served.2.throttle.accepted = some 3 ∧
      (∀ key, served.2.metrics.requests.count key = 0) ∧
      (∀ label, served.2.metrics.durations.count label = 0) ∧
      inTime.2.metrics.requests.count ("index", 200) = 1 ∧
      inTime.2.metrics.durations.count "index" = 1 := by
  intro server board served inTime
  have late : served.1.response.status = 408 := by decide +kernel
  have untouched : served.2.metrics = board.metrics := serve_unmetered late
  refine ⟨rfl, late, by decide +kernel, ?_, ?_, by decide +kernel, by decide +kernel⟩
  · intro key
    rw [untouched]
    rfl
  · intro label
    rw [untouched]
    rfl

end NoteBoard.Proofs.RequestCounts
