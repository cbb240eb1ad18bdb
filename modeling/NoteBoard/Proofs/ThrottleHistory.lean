import Mathlib.Data.List.Induction
import NoteBoard.Proofs.GateCheck

/-! The throttle over runs of calls of the gate. Whatever a call asks for, the throttle decides it
from the time of the last accepted call alone, and the slot holds that time. So accepted calls lie
at least the interval apart, and a call that is not accepted might as well not have been made. -/

namespace NoteBoard.Proofs.ThrottleHistory
open GateCheck RequestOutcome

inductive Call where
  | enter (path : String)
  | check (path : String) (candidate : Option Token)
  /-- The slot alone; a refusal is counted. -/
  | acquire
  /-- The slot alone at a time that the caller names; nothing is counted. -/
  | acquireAt
  deriving DecidableEq

inductive Answer where
  | ruled (ruling : Except Refusal Route)
  | slot (taken : Bool)

/-- Only the throttle asks to slow down, so any other refusal comes after it accepted. -/
def Answer.accepted : Answer → Bool
  | .ruled (.error .tooManyRequests) => false
  | .ruled _ => true
  | .slot taken => taken

structure Timed where
  clock : Nat
  call : Call
  deriving DecidableEq

structure Entry where
  timed : Timed
  answer : Answer

def Entry.accepted (entry : Entry) : Bool := entry.answer.accepted

def respond (table : RouteTable) (board : Board) (timed : Timed) : Answer × Board :=
  match timed.call with
  | .enter path =>
    let (ruling, board) := board.enter table timed.clock path
    (.ruled ruling, board)
  | .check path candidate =>
    let (ruling, board) := board.check table timed.clock path candidate
    (.ruled ruling, board)
  | .acquire =>
    let (taken, board) := board.acquire timed.clock
    (.slot taken, board)
  | .acquireAt =>
    let (taken, throttle) := board.throttle.acquire timed.clock
    (.slot taken, { board with throttle })

def run (table : RouteTable) (board : Board) : List Timed → List Entry × Board
  | [] => ([], board)
  | timed :: later =>
    let current := respond table board timed
    let rest := run table current.2 later
    (⟨timed, current.1⟩ :: rest.1, rest.2)

def acceptedTimes (log : List Entry) : List Nat :=
  (log.filter Entry.accepted).map (·.timed.clock)

private theorem check_accepted (table : RouteTable) (board : Board) (clock : Nat) (path : String)
    (candidate : Option Token) :
    (Answer.ruled (board.check table clock path candidate).1).accepted =
      board.throttle.accepts clock := by
  obtain ⟨ruled, _⟩ := check_eq table board clock path candidate
  unfold verdict at ruled
  cases ready : board.throttle.accepts clock with
  | false =>
    simp only [ready, Bool.false_eq_true, if_false, Option.some.injEq] at ruled
    rw [ruled]
    rfl
  | true =>
    rw [ready] at ruled
    cases found : table.find path with
    | error error =>
      simp only [found, if_true, Option.some.injEq] at ruled
      rw [ruled]
      cases error <;> rfl
    | ok route =>
      simp only [found, if_true] at ruled
      split at ruled <;> rw [Option.some.inj ruled] <;> rfl

theorem acquire_eq (throttle : Throttle) (clock : Nat) :
    throttle.acquire clock = (throttle.accepts clock,
      if throttle.accepts clock then { throttle with accepted := some clock } else throttle) := by
  unfold Throttle.acquire
  split <;> simp_all

/-- With an interval that is not zero, a clock that went back is too early like any other. -/
theorem accepts_iff {throttle : Throttle} (positive : 0 < throttle.interval) (clock : Nat) :
    throttle.accepts clock = true ↔
      ∀ last, throttle.accepted = some last → last + throttle.interval ≤ clock := by
  unfold Throttle.accepts
  cases throttle.accepted with
  | none => simp
  | some last =>
    simp only [Option.some.injEq, forall_eq', decide_eq_true_eq]
    omega

structure SameGate (board other : Board) : Prop where
  throttle : other.throttle = board.throttle
  issuer : other.issuer = board.issuer

section respond
variable (table : RouteTable) (board : Board) (timed : Timed)

theorem respond_accepted :
    (respond table board timed).1.accepted = board.throttle.accepts timed.clock := by
  obtain ⟨clock, call⟩ := timed
  cases call with
  | enter path =>
    simp only [respond, enter_eq]
    cases board.throttle.accepts clock with
    | false => rfl
    | true =>
      cases table.find path with
      | ok route => rfl
      | error error => cases error <;> rfl
  | check path candidate =>
    exact check_accepted table board clock path candidate
  | acquire =>
    simp only [respond, Board.acquire, acquire_eq]
    cases board.throttle.accepts clock <;> rfl
  | acquireAt =>
    simp only [respond, acquire_eq]
    rfl

theorem respond_board : ∃ metrics, (respond table board timed).2 =
    { board with throttle := (board.throttle.acquire timed.clock).2, metrics } := by
  obtain ⟨clock, call⟩ := timed
  cases call with
  | enter path =>
    simp only [respond, enter_eq]
    cases ready : board.throttle.accepts clock with
    | true => exact ⟨board.metrics, rfl⟩
    | false =>
      rw [acquire_of_early ready]
      exact ⟨board.metrics.recordThrottled, rfl⟩
  | check path candidate =>
    obtain ⟨_, after⟩ := check_eq table board clock path candidate
    exact ⟨_, after⟩
  | acquire =>
    simp only [respond, Board.acquire]
    split
    · exact ⟨board.metrics, rfl⟩
    · exact ⟨board.metrics.recordThrottled, rfl⟩
  | acquireAt => exact ⟨board.metrics, rfl⟩

theorem respond_throttle :
    (respond table board timed).2.throttle = (board.throttle.acquire timed.clock).2 := by
  obtain ⟨metrics, after⟩ := respond_board table board timed
  rw [after]

theorem respond_issuer : (respond table board timed).2.issuer = board.issuer := by
  obtain ⟨metrics, after⟩ := respond_board table board timed
  rw [after]

end respond

private theorem respond_congr {board other : Board} (same : SameGate board other)
    (table : RouteTable)
    (timed : Timed) :
    (respond table other timed).1 = (respond table board timed).1 ∧
      SameGate (respond table board timed).2 (respond table other timed).2 := by
  obtain ⟨throttle, issuer⟩ := same
  refine ⟨?_, ?_, ?_⟩
  · obtain ⟨clock, call⟩ := timed
    cases call with
    | enter path =>
      simp only [respond, enter_eq, throttle]
      split <;> rfl
    | check path candidate =>
      have holds : other.holds candidate = board.holds candidate := by
        unfold Board.holds
        rw [issuer]
      obtain ⟨first, _⟩ := check_eq table other clock path candidate
      obtain ⟨second, _⟩ := check_eq table board clock path candidate
      have same : verdict table other clock path (some (.ok candidate)) =
          verdict table board clock path (some (.ok candidate)) := by
        unfold verdict
        rw [throttle]
        cases table.find path with
        | error error => rfl
        | ok route =>
          dsimp only
          rw [holds]
      exact congrArg Answer.ruled (Option.some.inj (first.trans (same.trans second.symm)))
    | acquire =>
      simp only [respond, Board.acquire, throttle]
      split <;> rfl
    | acquireAt => simp only [respond, throttle]
  · rw [respond_throttle, respond_throttle, throttle]
  · rw [respond_issuer, respond_issuer, issuer]

private theorem same_of_declined {table : RouteTable} {board other : Board} {timed : Timed}
    (declined : (respond table board timed).1.accepted = false) (same : SameGate board other) :
    SameGate (respond table board timed).2 other := by
  rw [respond_accepted] at declined
  constructor
  · rw [respond_throttle, acquire_of_early declined, same.throttle]
  · rw [respond_issuer, same.issuer]

/-- Calls that the throttle did not accept can be left out of a run: the others are answered as
before. -/
private theorem run_of_kept (table : RouteTable) {board other : Board} (same : SameGate board other)
    {calls : List Timed} {kept : List Entry} (among : kept.Sublist (run table board calls).1)
    (whole : kept.filter Entry.accepted = (run table board calls).1.filter Entry.accepted) :
    (run table other (kept.map Entry.timed)).1 = kept := by
  induction calls generalizing board other kept with
  | nil =>
    obtain rfl := List.sublist_nil.mp among
    rfl
  | cons timed later ih =>
    obtain ⟨answered, next⟩ := respond_congr same table timed
    let entry : Entry := ⟨timed, (respond table board timed).1⟩
    change kept.Sublist (entry :: (run table (respond table board timed).2 later).1) at among
    change _ = (entry :: (run table (respond table board timed).2 later).1).filter _ at whole
    cases among with
    | cons _ among =>
      cases accepted : entry.accepted with
      | true =>
        have fewer := (among.filter Entry.accepted).length_le
        rw [whole, List.filter_cons_of_pos accepted, List.length_cons] at fewer
        omega
      | false =>
        rw [List.filter_cons_of_neg (Bool.not_eq_true _ ▸ accepted)] at whole
        exact ih (same_of_declined accepted same) among whole
    | @cons_cons kept _ _ among =>
      have rest : kept.filter Entry.accepted =
          (run table (respond table board timed).2 later).1.filter Entry.accepted := by
        cases accepted : entry.accepted <;> simpa [List.filter_cons, accepted] using whole
      change (⟨timed, (respond table other timed).1⟩ : Entry) :: _ = entry :: kept
      rw [answered, ih next among rest]

def Spaced (interval : Nat) (times : List Nat) : Prop :=
  times.Pairwise fun earlier later => earlier + interval ≤ later

theorem Spaced.add_mul_le {interval : Nat} {times : List Nat} (spaced : Spaced interval times)
    {i k first later : Nat} (start : times[i]? = some first) (finish : times[i + k]? = some later) :
    first + k * interval ≤ later := by
  induction k generalizing later with
  | zero =>
    cases start.symm.trans finish
    omega
  | succ k ih =>
    obtain ⟨inside, last⟩ := List.getElem?_eq_some_iff.mp finish
    have before : i + k < times.length := by omega
    have reached := ih (List.getElem?_eq_getElem before)
    have step := List.pairwise_iff_getElem.mp spaced (i + k) (i + (k + 1)) before inside (by omega)
    rw [last] at step
    rw [Nat.succ_mul]
    omega

theorem Spaced.countP_le {interval : Nat} {times : List Nat} (spaced : Spaced interval times)
    {k opening closing : Nat} (short : closing < opening + k * interval) :
    times.countP (fun time => opening ≤ time ∧ time ≤ closing) ≤ k := by
  rw [List.countP_eq_length_filter]
  by_contra crowded
  let inside := times.filter fun time => opening ≤ time ∧ time ≤ closing
  have more : k < inside.length := Nat.lt_of_not_le crowded
  have spacedInside : Spaced interval inside := spaced.sublist List.filter_sublist
  have first := List.getElem?_eq_getElem (l := inside) (Nat.zero_lt_of_lt more)
  have last := List.getElem?_eq_getElem (l := inside) more
  have apart := spacedInside.add_mul_le first (by rwa [Nat.zero_add])
  have bounds : ∀ time ∈ inside, opening ≤ time ∧ time ≤ closing := by
    intro time member
    simpa [inside] using (List.mem_filter.mp member).2
  have opens := (bounds _ (List.getElem_mem (Nat.zero_lt_of_lt more))).1
  have closes := (bounds _ (List.getElem_mem more)).2
  omega

theorem acceptedTimes_cons (table : RouteTable) (board : Board) (timed : Timed)
    (later : List Timed) :
    acceptedTimes (run table board (timed :: later)).1 =
      let rest := acceptedTimes (run table (respond table board timed).2 later).1
      if board.throttle.accepts timed.clock then timed.clock :: rest else rest := by
  have accepted : (⟨timed, (respond table board timed).1⟩ : Entry).accepted =
      board.throttle.accepts timed.clock := respond_accepted table board timed
  simp only [acceptedTimes, run, List.filter_cons, accepted]
  split <;> rfl

private theorem run_throttle (table : RouteTable) (board : Board) (calls : List Timed) :
    (run table board calls).2.throttle = { board.throttle with
      accepted := (acceptedTimes (run table board calls).1).getLast?.or board.throttle.accepted } := by
  induction calls generalizing board with
  | nil => rfl
  | cons timed later ih =>
    change (run table (respond table board timed).2 later).2.throttle = _
    rw [ih, acceptedTimes_cons, respond_throttle, acquire_eq]
    cases board.throttle.accepts timed.clock with
    | false => rfl
    | true => simp [List.getLast?_cons]

private theorem run_spaced (table : RouteTable) {board : Board}
    (positive : 0 < board.throttle.interval)
    (calls : List Timed) :
    let times := acceptedTimes (run table board calls).1
    Spaced board.throttle.interval times ∧ ∀ last, board.throttle.accepted = some last →
      ∀ time ∈ times, last + board.throttle.interval ≤ time := by
  induction calls generalizing board with
  | nil => exact ⟨.nil, by simp [run, acceptedTimes]⟩
  | cons timed later ih =>
    have slot := respond_throttle table board timed
    rw [acquire_eq] at slot
    rw [acceptedTimes_cons]
    cases ready : board.throttle.accepts timed.clock with
    | false =>
      rw [ready] at slot
      change (respond table board timed).2.throttle = board.throttle at slot
      rw [← slot] at positive ⊢
      exact ih positive
    | true =>
      rw [ready] at slot
      change (respond table board timed).2.throttle =
        { board.throttle with accepted := some timed.clock } at slot
      have remains : 0 < (respond table board timed).2.throttle.interval := by rwa [slot]
      obtain ⟨spaced, after⟩ := ih remains
      rw [slot] at spaced after
      have since := after timed.clock rfl
      refine ⟨List.pairwise_cons.mpr ⟨since, spaced⟩, ?_⟩
      intro last held time member
      have late := (accepts_iff positive timed.clock).mp ready last held
      rcases List.mem_cons.mp member with rfl | member
      · exact late
      · have apart := since time member
        dsimp only at apart
        omega

/-- What a run of calls shows of the throttle: how it decides a further call and what becomes of the
slot, which calls have a part in the others' answers, and how close accepted calls can be. -/
structure Throttled (table : RouteTable) (start : Board) (ran : List Entry × Board) : Prop where
  decides : ∀ timed, (respond table ran.2 timed).1.accepted = true ↔
    ∀ last, (acceptedTimes ran.1).getLast? = some last →
      last + start.throttle.interval ≤ timed.clock
  moves : ∀ timed, (respond table ran.2 timed).2.throttle.accepted =
    if (respond table ran.2 timed).1.accepted then some timed.clock
    else (acceptedTimes ran.1).getLast?
  /-- A call that is then turned away has taken the slot. -/
  turnedAway : ∀ timed refusal, refusal ≠ .tooManyRequests →
    (respond table ran.2 timed).1 = .ruled (.error refusal) →
      (respond table ran.2 timed).2.throttle.accepted = some timed.clock
  kept : ∀ kept : List Entry, kept.Sublist ran.1 →
    kept.filter Entry.accepted = ran.1.filter Entry.accepted →
      (run table start (kept.map Entry.timed)).1 = kept
  spaced : ∀ i k first later : Nat, (acceptedTimes ran.1)[i]? = some first →
    (acceptedTimes ran.1)[i + k]? = some later → first + k * start.throttle.interval ≤ later
  windowed : ∀ k opening closing, closing < opening + k * start.throttle.interval →
    (acceptedTimes ran.1).countP (fun time => opening ≤ time ∧ time ≤ closing) ≤ k

/-- Over any run of calls at any times, the throttle accepts a call if and only if none was accepted
before it or the interval has passed since the last one that was. The slot moves with every accepted
call, also if its path or its token is then refused, and calls that are not accepted can be left out
of the run. So the k-th accepted time after another is at least k intervals later, and a window
shorter than that holds at most k of them. -/
theorem run_is_throttled (table : RouteTable) (board : Board) (interval : Nat)
    (positive : 0 < interval) (calls : List Timed) :
    let start := { board with throttle := ⟨interval, none⟩ }
    Throttled table start (run table start calls) := by
  intro start
  let ran := run table start calls
  have slot : ran.2.throttle = ⟨interval, (acceptedTimes ran.1).getLast?⟩ := by
    rw [run_throttle, Option.or_none]
  have spaced : Spaced interval (acceptedTimes ran.1) :=
    have remains : 0 < start.throttle.interval := positive
    (run_spaced table remains calls).1
  have moves : ∀ timed, (respond table ran.2 timed).2.throttle.accepted =
      if (respond table ran.2 timed).1.accepted then some timed.clock
      else (acceptedTimes ran.1).getLast? := by
    intro timed
    rw [respond_throttle, respond_accepted, acquire_eq, slot]
    split <;> rfl
  refine ⟨?_, moves, ?_, ?_, ?_, ?_⟩
  · intro timed
    rw [respond_accepted, slot]
    exact accepts_iff positive timed.clock
  · intro timed refusal other refused
    have accepted : (respond table ran.2 timed).1.accepted = true := by
      rw [refused]
      cases refusal with
      | tooManyRequests => exact absurd rfl other
      | notFound | badRequest | payloadTooLarge | unauthorized | failed => rfl
    rw [moves, if_pos accepted]
  · intro kept among whole
    exact run_of_kept table ⟨rfl, rfl⟩ among whole
  · intro i k first later begins ends
    exact spaced.add_mul_le begins ends
  · intro k opening closing short
    exact spaced.countP_le short

def unsteady : List Timed :=
  [⟨50, .enter "/nowhere"⟩, ⟨20, .acquire⟩, ⟨150, .check "/NewNote/" none⟩, ⟨249, .enter "/"⟩,
    ⟨250, .acquireAt⟩]

theorem unsteady_throttled :
    let start := { Board.new 0 fun _ => 0 with throttle := ⟨100, none⟩ }
    let ran := run RouteTable.board start unsteady
    0 < 100 ∧ Throttled RouteTable.board start ran ∧ acceptedTimes ran.1 = [50, 150, 250] :=
  ⟨by decide, run_is_throttled RouteTable.board (Board.new 0 fun _ => 0) 100 (by decide) unsteady,
    by decide +kernel⟩

end NoteBoard.Proofs.ThrottleHistory
