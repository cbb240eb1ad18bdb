import Mathlib.Data.List.Chain
import NoteBoard.Proofs.ThrottleHistory

/-! How many arrivals the throttle lets through. It takes an arrival as soon as the interval has
passed and never waits for a later one. Waiting would not pay: whatever selection of the arrivals
is made instead, its first member comes no earlier than the one the throttle takes, so all that can
follow that member can follow the taken one too. -/

namespace NoteBoard.Proofs.ThrottleCapacity
open ThrottleHistory

/-- Some of the arrivals in their order, neighbours at least the interval apart. -/
structure Selection (interval : Nat) (arrivals picked : List Nat) : Prop where
  among : picked.Sublist arrivals
  apart : picked.IsChain fun earlier later => interval ≤ later - earlier

def taken (throttle : Throttle) (arrivals : List Nat) : List Nat :=
  ((arrivals.zip (throttle.run arrivals)).filter Prod.snd).map Prod.fst

def Free (throttle : Throttle) (times : List Nat) : Prop :=
  ∀ last ∈ throttle.accepted, ∀ first ∈ times.head?, throttle.interval ≤ first - last

theorem free_cons_iff (throttle : Throttle) (now : Nat) (later : List Nat) :
    Free throttle (now :: later) ↔ throttle.accepts now = true := by
  unfold Free Throttle.accepts
  cases throttle.accepted with
  | none => simp
  | some last => simp

section step
variable {throttle : Throttle} {now : Nat} (later : List Nat)

theorem run_of_accepts (accepted : throttle.accepts now = true) :
    throttle.run (now :: later) = true :: { throttle with accepted := some now }.run later := by
  simp only [Throttle.run, acquire_eq, accepted, if_true]

theorem run_of_declines (declined : throttle.accepts now = false) :
    throttle.run (now :: later) = false :: throttle.run later := by
  simp only [Throttle.run, acquire_eq, declined, Bool.false_eq_true, if_false]

theorem taken_of_accepts (accepted : throttle.accepts now = true) :
    taken throttle (now :: later) = now :: taken { throttle with accepted := some now } later := by
  simp [taken, run_of_accepts later accepted]

theorem taken_of_declines (declined : throttle.accepts now = false) :
    taken throttle (now :: later) = taken throttle later := by
  simp [taken, run_of_declines later declined]

end step

private theorem length_taken (throttle : Throttle) (arrivals : List Nat) :
    (taken throttle arrivals).length = (throttle.run arrivals).count true := by
  induction arrivals generalizing throttle with
  | nil => rfl
  | cons now later ih =>
    cases ready : throttle.accepts now with
    | false =>
      rw [taken_of_declines later ready, run_of_declines later ready, ih]
      simp
    | true =>
      rw [taken_of_accepts later ready, run_of_accepts later ready, List.length_cons, ih]
      simp

private theorem taken_sublist (throttle : Throttle) (arrivals : List Nat) :
    (taken throttle arrivals).Sublist arrivals := by
  induction arrivals generalizing throttle with
  | nil => exact List.Sublist.refl _
  | cons now later ih =>
    cases ready : throttle.accepts now with
    | false =>
      rw [taken_of_declines later ready]
      exact (ih throttle).cons now
    | true =>
      rw [taken_of_accepts later ready]
      exact (ih _).cons_cons now

private theorem taken_apart (throttle : Throttle) (arrivals : List Nat) :
    Free throttle (taken throttle arrivals) ∧
      (taken throttle arrivals).IsChain fun earlier later =>
        throttle.interval ≤ later - earlier := by
  induction arrivals generalizing throttle with
  | nil => exact ⟨by simp [Free, taken], .nil⟩
  | cons now later ih =>
    cases ready : throttle.accepts now with
    | false =>
      rw [taken_of_declines later ready]
      exact ih throttle
    | true =>
      obtain ⟨free, apart⟩ := ih { throttle with accepted := some now }
      rw [taken_of_accepts later ready]
      refine ⟨(free_cons_iff throttle now _).mpr ready, ?_⟩
      apply List.isChain_cons.mpr
      refine ⟨?_, apart⟩
      intro next first
      exact free now rfl next first

private theorem among_later {now first : Nat} {later rest : List Nat}
    (ordered : (now :: later).Pairwise (· ≤ ·)) (among : (first :: rest).Sublist (now :: later)) :
    rest.Sublist later ∧ now ≤ first := by
  cases among with
  | cons _ among =>
    refine ⟨(List.sublist_cons_self first rest).trans among, ?_⟩
    apply List.rel_of_pairwise_cons ordered
    exact among.subset List.mem_cons_self
  | cons_cons _ among => exact ⟨among, Nat.le_refl now⟩

/-- The exchange: a selection keeps all its members but the first when the first arrival that the
throttle takes is put in the place of that one. -/
private theorem length_le_taken {throttle : Throttle} {arrivals picked : List Nat}
    (ordered : arrivals.Pairwise (· ≤ ·)) (selection : Selection throttle.interval arrivals picked)
    (free : Free throttle picked) : picked.length ≤ (taken throttle arrivals).length := by
  induction arrivals generalizing throttle picked with
  | nil =>
    have empty : picked = [] := List.sublist_nil.mp selection.among
    simp [empty]
  | cons now later ih =>
    obtain ⟨among, apart⟩ := selection
    have remaining : later.Pairwise (· ≤ ·) := ordered.of_cons
    cases picked with
    | nil => exact Nat.zero_le _
    | cons first rest =>
      cases ready : throttle.accepts now with
      | false =>
        rw [taken_of_declines later ready]
        apply ih remaining _ free
        refine ⟨?_, apart⟩
        cases among with
        | cons _ among => exact among
        | cons_cons _ _ =>
          rw [free_cons_iff, ready] at free
          cases free
      | true =>
        obtain ⟨among, sooner⟩ := among_later ordered among
        obtain ⟨gap, apart⟩ := List.isChain_cons.mp apart
        let moved : Throttle := { throttle with accepted := some now }
        have selection : Selection moved.interval later rest := ⟨among, apart⟩
        have free : Free moved rest := by
          intro last slot next head
          have same : now = last := Option.some.inj slot
          have wide : throttle.interval ≤ next - first := gap next head
          change throttle.interval ≤ next - last
          omega
        rw [taken_of_accepts later ready, List.length_cons, List.length_cons]
        apply Nat.succ_le_succ
        exact ih remaining selection free

/-- The accepted arrivals are such a selection themselves, and none has more members. -/
theorem accepted_most (interval : Nat) (arrivals : List Nat)
    (ordered : arrivals.Pairwise (· ≤ ·)) :
    let throttle : Throttle := ⟨interval, none⟩
    let accepted := (throttle.run arrivals).count true
    (Selection interval arrivals (taken throttle arrivals) ∧
      (taken throttle arrivals).length = accepted) ∧
    ∀ picked, Selection interval arrivals picked → picked.length ≤ accepted := by
  intro throttle accepted
  have counted : (taken throttle arrivals).length = accepted := length_taken throttle arrivals
  obtain ⟨_, apart⟩ := taken_apart throttle arrivals
  refine ⟨⟨⟨taken_sublist throttle arrivals, apart⟩, counted⟩, ?_⟩
  intro picked selection
  have free : Free throttle picked := by
    intro last slot
    cases slot
  rw [← counted]
  exact length_le_taken ordered selection free

/-- Of the arrivals at 110 and 115 the throttle takes the first, another selection the second. -/
theorem later_arrivals_not_more :
    let arrivals := [0, 60, 110, 115, 170, 230]
    arrivals.Pairwise (· ≤ ·) ∧ Selection 100 arrivals [0, 115, 230] ∧
    taken ⟨100, none⟩ arrivals = [0, 110, 230] ∧
    3 ≤ ((⟨100, none⟩ : Throttle).run arrivals).count true := by
  intro arrivals
  have ordered : arrivals.Pairwise (· ≤ ·) := by decide
  have selection : Selection 100 arrivals [0, 115, 230] := ⟨by decide, by decide⟩
  obtain ⟨_, most⟩ := accepted_most 100 arrivals ordered
  exact ⟨ordered, selection, by decide, most _ selection⟩

end NoteBoard.Proofs.ThrottleCapacity
