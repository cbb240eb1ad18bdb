import Mathlib.Data.List.Basic
import NoteBoard.Stop

/-! The stop signal over its history. A receiver has behind it what was sent before it subscribed,
the stops it got and those it was told it missed; it answers that there is nothing exactly when
that is all that was sent. -/

namespace NoteBoard.Proofs.StopHistory
open StopSignal

inductive Call where
  | subscribe
  | trigger
  | drop
  | receive (receiver : Nat)
  deriving DecidableEq

/-- What a call answers, if it asks a receiver, and the signal after it. -/
def respond (signal : StopSignal) : Call → Option Receipt × StopSignal
  | .subscribe => (none, signal.subscribe.2)
  | .trigger => (none, signal.trigger)
  | .drop => (none, signal.drop)
  | .receive receiver =>
    match signal.receive receiver with
    | some (receipt, after) => (some receipt, after)
    | none => (none, signal)

def run (signal : StopSignal) (calls : List Call) : StopSignal :=
  calls.foldl (fun signal call => (respond signal call).2) signal

def receipts (receiver : Nat) (signal : StopSignal) : List Call → List Receipt
  | [] => []
  | call :: calls =>
    let current := respond signal call
    (if call = .receive receiver then current.1.toList else []) ++ receipts receiver current.2 calls

/-- How many stops a run sends: one with each trigger and a last one with the drop. -/
def sends : List Call → Nat
  | [] => 0
  | .trigger :: calls => sends calls + 1
  | .drop :: _ => 1
  | .subscribe :: calls | .receive _ :: calls => sends calls

/-- How many stops a receipt tells of: the one that arrives, or those that were missed. -/
def stops : Receipt → Nat
  | .stop => 1
  | .lagged missed => missed
  | .empty | .closed => 0

def told : List Receipt → Nat
  | [] => 0
  | receipt :: receipts => stops receipt + told receipts

def concerns (receiver : Nat) : Call → Bool
  | .receive other => other == receiver
  | .subscribe | .trigger | .drop => true

/-- The answer that a receiver would give after a run on a new signal. -/
def next? (receiver : Nat) (calls : List Call) : Option Receipt :=
  (respond (run {} calls) (.receive receiver)).1

abbrev course (earlier later : List Call) : List Call := earlier ++ .subscribe :: later

def since (receiver : Nat) (earlier later : List Call) : List Receipt :=
  receipts receiver (run {} (earlier ++ [.subscribe])) later

/-- What holds of a receiver that subscribed after some calls, when others came later. -/
structure Informed (receiver : Nat) (earlier later : List Call) : Prop where
  answers : (next? receiver (course earlier later)).isSome = true
  /-- It has nothing left to receive when it has been told of every stop since it subscribed, and not
  before. -/
  accounted : next? receiver (course earlier later) ∈ [some .empty, some .closed] ↔
    sends earlier + told (since receiver earlier later) = sends (course earlier later)
  /-- After a stop that was sent since it last answered, it answers with a stop or with how many
  it missed. -/
  alerted : ∀ before after, later = before ++ after → .receive receiver ∉ after →
    sends (course earlier before) < sends (course earlier later) →
    next? receiver (course earlier later) = some .stop ∨
      ∃ missed, next? receiver (course earlier later) = some (.lagged missed)
  /-- It is told only once how many it missed, and then gets the last one. -/
  caughtUp : ∀ before after missed, later = before ++ .receive receiver :: after →
    .receive receiver ∉ after →
    next? receiver (course earlier before) = some (.lagged missed) →
    sends (course earlier before) = sends (course earlier later) →
    next? receiver (course earlier later) = some .stop
  dropped : next? receiver (course earlier later) = some .closed → .drop ∈ course earlier later
  final : next? receiver (course earlier later) = some .closed →
    ∀ more, next? receiver (course earlier (later ++ more)) = some .closed
  /-- What other receivers read makes no difference to it. -/
  alone : since receiver earlier later = since receiver earlier (later.filter (concerns receiver))

theorem run_cons (signal : StopSignal) (call : Call) (calls : List Call) :
    run signal (call :: calls) = run (respond signal call).2 calls := rfl

theorem run_append (signal : StopSignal) (first second : List Call) :
    run signal (first ++ second) = run (run signal first) second :=
  List.foldl_append

theorem told_append (first second : List Receipt) :
    told (first ++ second) = told first + told second := by
  induction first with
  | nil => exact (Nat.zero_add _).symm
  | cons receipt first ih => rw [List.cons_append, told, told, ih, Nat.add_assoc]

theorem receipts_append (receiver : Nat) (signal : StopSignal) (first second : List Call) :
    receipts receiver signal (first ++ second) =
      receipts receiver signal first ++ receipts receiver (run signal first) second := by
  induction first generalizing signal with
  | nil => rfl
  | cons call first ih =>
    rw [List.cons_append, receipts, receipts, ih, List.append_assoc]
    rfl

theorem receipts_of_not_mem {receiver : Nat} {calls : List Call}
    (silent : .receive receiver ∉ calls) (signal : StopSignal) :
    receipts receiver signal calls = [] := by
  induction calls generalizing signal with
  | nil => rfl
  | cons call calls ih =>
    rw [List.mem_cons, not_or] at silent
    rw [receipts, if_neg (Ne.symm silent.1), ih silent.2]
    rfl

theorem respond_receive {signal : StopSignal} {receiver seen : Nat}
    (held : signal.receivers[receiver]? = some seen) :
    respond signal (.receive receiver) = (some (signal.receiveAt seen).1,
      { signal with
        receivers := signal.receivers.setIfInBounds receiver (signal.receiveAt seen).2 }) := by
  simp [respond, receive, held]

theorem respond_absent {signal : StopSignal} {receiver : Nat}
    (absent : signal.receivers[receiver]? = none) :
    respond signal (.receive receiver) = (none, signal) := by
  simp [respond, receive, absent]

theorem respond_sent (signal : StopSignal) (call : Call) :
    (respond signal call).2.closed = (signal.closed || call == .drop) ∧
      (respond signal call).2.sent = signal.sent + if signal.closed then 0 else sends [call] := by
  cases call with
  | subscribe => simp [respond, subscribe, sends]
  | trigger => cases gone : signal.closed <;> simp [respond, trigger, sends, gone]
  | drop => cases gone : signal.closed <;> simp [respond, drop, trigger, sends, gone]
  | receive receiver =>
    cases held : signal.receivers[receiver]? with
    | none => simp [respond_absent held, sends]
    | some seen => simp [respond_receive held, sends]

/-- What was sent and whether the sender is gone can be read off the calls. -/
theorem run_sent (signal : StopSignal) (calls : List Call) :
    (run signal calls).closed = (signal.closed || calls.contains .drop) ∧
      (run signal calls).sent = signal.sent + if signal.closed then 0 else sends calls := by
  induction calls generalizing signal with
  | nil => simp [run, sends]
  | cons call calls ih =>
    obtain ⟨closed, sent⟩ := respond_sent signal call
    obtain ⟨laterClosed, laterSent⟩ := ih (respond signal call).2
    rw [run_cons, laterClosed, laterSent, closed, sent]
    cases call <;> cases signal.closed <;> simp [sends]
    omega

theorem run_new (calls : List Call) :
    (run {} calls).closed = calls.contains .drop ∧ (run {} calls).sent = sends calls := by
  simpa using run_sent {} calls

/-- A receiver has so many messages behind it, and no more than were sent. -/
structure Follows (receiver seen : Nat) (signal : StopSignal) : Prop where
  held : signal.receivers[receiver]? = some seen
  within : seen ≤ signal.sent

variable {receiver seen : Nat} {signal : StopSignal}

private theorem receiveAt_told (within : seen ≤ signal.sent) :
    (signal.receiveAt seen).2 = seen + told [(signal.receiveAt seen).1] ∧
      (signal.receiveAt seen).2 ≤ signal.sent := by
  unfold receiveAt
  split
  next all => cases signal.closed <;> simp [told, stops, within]
  next => split <;> simp [told, stops] <;> omega

private theorem follows_respond (follows : Follows receiver seen signal) (call : Call) :
    Follows receiver (seen + told (receipts receiver signal [call])) (respond signal call).2 := by
  have inside := (Array.getElem?_eq_some_iff.mp follows.held).choose
  have grown : signal.sent ≤ (respond signal call).2.sent := by
    rw [(respond_sent signal call).2]
    omega
  have unmoved (other : call ≠ .receive receiver)
      (kept : (respond signal call).2.receivers[receiver]? = some seen) :
      Follows receiver (seen + told (receipts receiver signal [call]))
        (respond signal call).2 := by
    have silent : receipts receiver signal [call] = [] :=
      receipts_of_not_mem (by simpa using Ne.symm other) signal
    rw [silent]
    exact ⟨kept, Nat.le_trans follows.within grown⟩
  cases call with
  | subscribe =>
    apply unmoved (by simp)
    simpa [respond, subscribe, Array.getElem?_push, Nat.ne_of_lt inside]
      using follows.held
  | trigger =>
    apply unmoved (by simp)
    cases gone : signal.closed <;> simpa [respond, trigger, gone] using follows.held
  | drop =>
    apply unmoved (by simp)
    cases gone : signal.closed <;>
      simpa [respond, drop, trigger, gone] using follows.held
  | receive other =>
    by_cases own : other = receiver
    · subst own
      obtain ⟨moved, within⟩ := receiveAt_told follows.within
      simp only [receipts, respond_receive follows.held]
      exact ⟨by simp [inside, moved], by simpa [moved] using within⟩
    · apply unmoved (by simp [own])
      cases held : signal.receivers[other]? with
      | none => rw [respond_absent held]; exact follows.held
      | some seen => simpa [respond_receive held, Array.getElem?_setIfInBounds, own] using follows.held

theorem follows_run (follows : Follows receiver seen signal) (calls : List Call) :
    Follows receiver (seen + told (receipts receiver signal calls)) (run signal calls) := by
  induction calls generalizing seen signal with
  | nil => exact follows
  | cons call calls ih =>
    have later := ih (follows_respond follows call)
    rw [Nat.add_assoc, ← told_append] at later
    rw [run_cons, ← List.singleton_append, receipts_append]
    exact later

private theorem follows_of_subscribe (earlier : List Call) :
    Follows (run {} earlier).subscribe.1 (sends earlier) (run {} (earlier ++ [.subscribe])) := by
  rw [← (run_new earlier).2, run_append]
  exact ⟨by simp [run, respond, subscribe], Nat.le_refl _⟩

/-- Where a receiver is after the calls that came since it subscribed. -/
private theorem follows_course (earlier later : List Call) :
    Follows (run {} earlier).subscribe.1
      (sends earlier + told (since (run {} earlier).subscribe.1 earlier later))
      (run {} (course earlier later)) := by
  have follows := follows_run (follows_of_subscribe earlier) later
  rwa [← run_append, List.append_assoc, List.singleton_append] at follows

theorem next?_of_follows {calls : List Call} (follows : Follows receiver seen (run {} calls)) :
    next? receiver calls = some ((run {} calls).receiveAt seen).1 := by
  rw [next?, respond_receive follows.held]

theorem receiveAt_even (signal : StopSignal) :
    (signal.receiveAt signal.sent).1 = if signal.closed then .closed else .empty := by
  simp [receiveAt]

theorem receiveAt_behind (behind : seen < signal.sent) :
    seen + 1 = signal.sent ∧ signal.receiveAt seen = (.stop, signal.sent) ∨
      seen + 1 < signal.sent ∧
        signal.receiveAt seen = (.lagged (signal.sent - 1 - seen), signal.sent - 1) := by
  unfold receiveAt
  rw [if_neg (Nat.not_le_of_lt behind)]
  split
  next older => exact Or.inr ⟨older, rfl⟩
  next last =>
    have only : seen + 1 = signal.sent := by omega
    exact Or.inl ⟨only, by rw [only]⟩

/-- With nothing left to receive a receiver has everything behind it. -/
theorem even_of_rest (within : seen ≤ signal.sent)
    (rest : (signal.receiveAt seen).1 = .empty ∨ (signal.receiveAt seen).1 = .closed) :
    seen = signal.sent := by
  by_contra different
  rcases receiveAt_behind (Nat.lt_of_le_of_ne within different) with ⟨_, stop⟩ | ⟨_, lagged⟩
  · simp [stop] at rest
  · simp [lagged] at rest

theorem closed_of_receiveAt (within : seen ≤ signal.sent)
    (answer : (signal.receiveAt seen).1 = .closed) : seen = signal.sent ∧ signal.closed = true := by
  obtain rfl := even_of_rest within (Or.inr answer)
  rw [receiveAt_even] at answer
  refine ⟨rfl, ?_⟩
  by_contra there
  rw [if_neg there] at answer
  cases answer

private theorem lagged_of_receiveAt {missed : Nat}
    (answer : (signal.receiveAt seen).1 = .lagged missed) :
    seen + missed + 1 = signal.sent := by
  unfold receiveAt at answer
  split at answer
  next => cases closed : signal.closed <;> simp [closed] at answer
  next =>
    split at answer
    next older =>
      cases answer
      omega
    next => cases answer

structure Alike (receiver : Nat) (first second : StopSignal) : Prop where
  sent : first.sent = second.sent
  closed : first.closed = second.closed
  size : first.receivers.size = second.receivers.size
  held : first.receivers[receiver]? = second.receivers[receiver]?

variable {first second : StopSignal}

private theorem alike_respond (alike : Alike receiver first second) {call : Call}
    (own : concerns receiver call = true) :
    Alike receiver (respond first call).2 (respond second call).2 ∧
      (call = .receive receiver → (respond first call).1 = (respond second call).1) := by
  obtain ⟨sent, closed, size, held⟩ := alike
  cases call with
  | subscribe =>
    refine ⟨⟨sent, closed, by simp [respond, subscribe, size], ?_⟩, by simp⟩
    simp [respond, subscribe, Array.getElem?_push, size, held, sent]
  | trigger =>
    refine ⟨?_, by simp⟩
    simp only [respond, trigger, closed]
    split
    · exact ⟨sent, closed, size, held⟩
    · exact ⟨congrArg (· + 1) sent, rfl, size, held⟩
  | drop =>
    refine ⟨?_, by simp⟩
    simp only [respond, drop, trigger, closed]
    split
    · exact ⟨sent, closed, size, held⟩
    · exact ⟨congrArg (· + 1) sent, rfl, size, held⟩
  | receive other =>
    obtain rfl : other = receiver := by simpa [concerns] using own
    cases behind : second.receivers[other]? with
    | none =>
      rw [respond_absent (held.trans behind), respond_absent behind]
      exact ⟨⟨sent, closed, size, held⟩, fun _ => rfl⟩
    | some seen =>
      have same : first.receiveAt seen = second.receiveAt seen := by
        unfold receiveAt
        rw [sent, closed]
      rw [respond_receive (held.trans behind), respond_receive behind, same]
      exact ⟨⟨sent, closed, by simp [size], by simp [Array.getElem?_setIfInBounds_self, size]⟩,
        fun _ => rfl⟩

private theorem alike_of_other (signal : StopSignal) {call : Call}
    (other : concerns receiver call = false) : Alike receiver (respond signal call).2 signal := by
  cases call with
  | receive reader =>
    have different : reader ≠ receiver := by simpa [concerns] using other
    cases held : signal.receivers[reader]? with
    | none => rw [respond_absent held]; exact ⟨rfl, rfl, rfl, rfl⟩
    | some seen =>
      rw [respond_receive held]
      exact ⟨rfl, rfl, by simp, by simp [different]⟩
  | subscribe | trigger | drop => cases other

private theorem receipts_filter (alike : Alike receiver first second) (calls : List Call) :
    receipts receiver first calls = receipts receiver second (calls.filter (concerns receiver)) := by
  induction calls generalizing first second with
  | nil => rfl
  | cons call calls ih =>
    cases own : concerns receiver call with
    | true =>
      obtain ⟨after, same⟩ := alike_respond alike own
      rw [List.filter_cons_of_pos own, receipts, receipts, ih after]
      congr 1
      split
      next read => rw [same read]
      next => rfl
    | false =>
      have kept := alike_of_other first own
      have unread : call ≠ .receive receiver := by
        rintro rfl
        simp [concerns] at own
      rw [List.filter_cons_of_neg (by simp [own]), receipts, if_neg unread, List.nil_append]
      exact ih ⟨kept.sent.trans alike.sent, kept.closed.trans alike.closed,
        kept.size.trans alike.size, kept.held.trans alike.held⟩

theorem since_append (receiver : Nat) (earlier before after : List Call) :
    since receiver earlier (before ++ after) =
      since receiver earlier before ++ receipts receiver (run {} (course earlier before)) after := by
  rw [since, receipts_append, ← run_append, List.append_assoc, List.singleton_append]
  rfl

private theorem since_of_not_mem {receiver : Nat} {after : List Call}
    (silent : .receive receiver ∉ after)
    (earlier before : List Call) :
    since receiver earlier (before ++ after) = since receiver earlier before := by
  rw [since_append, receipts_of_not_mem silent, List.append_nil]

private theorem since_of_read {earlier before after : List Call}
    (follows : Follows receiver seen (run {} (course earlier before)))
    (silent : .receive receiver ∉ after) :
    since receiver earlier (before ++ .receive receiver :: after) =
      since receiver earlier before ++ [((run {} (course earlier before)).receiveAt seen).1] := by
  rw [since_append, receipts, if_pos rfl, receipts_of_not_mem silent, List.append_nil,
    respond_receive follows.held]
  rfl

private theorem run_of_closed (follows : Follows receiver signal.sent signal)
    (closed : signal.closed = true)
    (more : List Call) :
    Follows receiver (run signal more).sent (run signal more) ∧ (run signal more).closed = true := by
  obtain ⟨gone, sent⟩ := run_sent signal more
  rw [closed, if_pos rfl, Nat.add_zero] at sent
  have later := follows_run follows more
  have even : signal.sent + told (receipts receiver signal more) = (run signal more).sent := by
    have := later.within
    omega
  rw [even] at later
  exact ⟨later, by rw [gone, closed]; rfl⟩

/-- Whoever subscribes is told of every stop from then on, as one that arrives or as one of those that
were missed, and whatever other receivers do. -/
theorem subscribers_informed (earlier later : List Call) :
    Informed (run {} earlier).subscribe.1 earlier later := by
  set receiver := (run {} earlier).subscribe.1
  have follows (later : List Call) :
      Follows receiver (sends earlier + told (since receiver earlier later))
        (run {} (course earlier later)) := follows_course earlier later
  have next (later : List Call) := next?_of_follows (follows later)
  have sent (later : List Call) := (run_new (course earlier later)).2
  constructor
  case answers =>
    rw [next]
    rfl
  case accounted =>
    rw [next, ← sent]
    constructor
    · intro rest
      exact even_of_rest (follows later).within (by simpa using rest)
    · intro even
      rw [even, receiveAt_even]
      cases (run {} (course earlier later)).closed <;> simp
  case alerted =>
    rintro before after rfl silent fresh
    have behind : sends earlier + told (since receiver earlier before) <
        (run {} (course earlier (before ++ after))).sent := by
      rw [sent]
      exact Nat.lt_of_le_of_lt (sent before ▸ (follows before).within) fresh
    rw [next, since_of_not_mem silent]
    rcases receiveAt_behind behind with ⟨_, stop⟩ | ⟨_, lagged⟩
    · exact Or.inl (by rw [stop])
    · exact Or.inr ⟨_, by rw [lagged]⟩
  case caughtUp =>
    rintro before after missed rfl silent lagged quiet
    rw [next, Option.some.injEq] at lagged
    have last := lagged_of_receiveAt lagged
    rw [sent, quiet, ← sent] at last
    have told : told [.lagged missed] = missed := by simp [told, stops]
    rw [next, since_of_read (follows before) silent, lagged, told_append, told, ← Nat.add_assoc]
    rcases receiveAt_behind (Nat.lt_of_lt_of_eq (Nat.lt_succ_self _) last) with
      ⟨_, stop⟩ | ⟨older, _⟩
    · rw [stop]
    · omega
  case dropped =>
    intro answer
    rw [next, Option.some.injEq] at answer
    have closed := (closed_of_receiveAt (follows later).within answer).2
    rw [(run_new (course earlier later)).1] at closed
    exact List.contains_iff_mem.mp closed
  case final =>
    intro answer more
    rw [next, Option.some.injEq] at answer
    obtain ⟨even, closed⟩ := closed_of_receiveAt (follows later).within answer
    obtain ⟨still, gone⟩ := run_of_closed (even ▸ follows later) closed more
    rw [← run_append, List.append_assoc, List.cons_append] at still gone
    rw [next?_of_follows still, receiveAt_even, gone]
    rfl
  case alone => exact receipts_filter ⟨rfl, rfl, rfl, rfl⟩ later

/-- A receiver that missed two stops of three is told so, then gets the last one and that of the drop. -/
example : receipts 0 {} [.subscribe, .trigger, .trigger, .trigger, .receive 0, .receive 0,
    .receive 0, .drop, .receive 0, .receive 0] = [.lagged 2, .stop, .empty, .stop, .closed] := by
  decide

end NoteBoard.Proofs.StopHistory
