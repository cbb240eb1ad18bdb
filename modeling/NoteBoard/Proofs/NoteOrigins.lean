import NoteBoard.Proofs.MutationSafety

/-! Which add a note comes from. The id of a deleted note may be given to a later one, so over a run
the note under an id is told by the request that put it there. -/

namespace NoteBoard.Proofs.NoteOrigins
open NoteTable PerformEffects RequestOutcome

/-- A request for a new note puts one under the id. -/
structure Adds (server : Server) (board : Board) (event : Server.Event) (id : Int) : Prop where
  requested : ∃ arrival request, event = .request arrival request ∧
    server.table.find (Request.decodePath request.path) = .ok .newNote
  next : board.notes.nextId = id
  present : row? (server.step board event).notes id ≠ none

/-- The note under an id after `earlier`, `adding` and `since` is the one that `adding` put there:
it has been there ever since. -/
structure Origin (server : Server) (start : Board) (id : Int) (earlier : List Server.Event)
    (adding : Server.Event) (since : List Server.Event) : Prop where
  added : Adds server (server.run start earlier) adding id
  kept : ∀ passed, passed <+: since →
    row? (server.run start (earlier ++ adding :: passed)).notes id ≠ none

theorem run_concat (server : Server) (start : Board) (events : List Server.Event)
    (event : Server.Event) :
    server.run start (events ++ [event]) = server.step (server.run start events) event := by
  rw [Server.run, List.foldl_append]
  rfl

theorem run_append (server : Server) (start : Board) (earlier later : List Server.Event) :
    server.run start (earlier ++ later) = server.run (server.run start earlier) later :=
  List.foldl_append

/-- Only the route for new notes puts a note under a free id. -/
private theorem newNote_of_tableChange {now : Int} {form : Form} {before after : Store}
    {route : Route}
    {id : Int} (change : TableChange now form before after route) (free : row? before id = none)
    (filled : row? after id ≠ none) : route = .newNote := by
  cases route with
  | newNote => rfl
  | index | addNote | filter =>
    rw [change] at filled
    exact absurd free filled
  | note action other =>
    cases action with
    | view | edit | delete | paste | confirmPaste =>
      rw [change] at filled
      exact absurd free filled
    | save =>
      refine absurd ?_ filled
      have table : row? after = _ := change
      rw [table]
      by_cases same : id = other
      · subst same
        rw [Function.update_self, free]
        rfl
      · rw [Function.update_of_ne same, free]
    | confirmDelete =>
      refine absurd ?_ filled
      have table : row? after = _ := change
      rw [table]
      by_cases same : id = other
      · rw [same, Function.update_self]
      · rw [Function.update_of_ne same, free]

private theorem adds_of_outcome {server : Server} {arrival : Arrival} {board after : Board}
    {request : Request} {response : Response} {id : Int}
    (came : Outcome server arrival board request response after)
    (free : row? board.notes id = none) (filled : row? after.notes id ≠ none) :
    server.table.find (Request.decodePath request.path) = .ok .newNote ∧
      board.notes.nextId = id := by
  cases came with
  | tooLong => exact absurd free filled
  | refused _ untouched | givenUp _ untouched =>
    rw [untouched.notes] at filled
    exact absurd free filled
  | @performed route _ admitted _ accepted found authorized untouched answered finished =>
    rw [finished.notes] at filled
    rw [← untouched.notes] at free ⊢
    obtain rfl := newNote_of_tableChange (perform_table ..) free filled
    refine ⟨found, ?_⟩
    by_contra different
    have table : row? (admitted.addNote arrival.now (Form.parse request.query request.body)).notes =
        _ := row?_add admitted.notes arrival.now _ _
    change row? (admitted.addNote arrival.now _).notes id ≠ none at filled
    rw [table, Function.update_of_ne (Ne.symm different)] at filled
    exact filled free

theorem adds_of_filled {server : Server} {board : Board} {event : Server.Event} {id : Int}
    (free : row? board.notes id = none) (filled : row? (server.step board event).notes id ≠ none) :
    Adds server board event id := by
  cases event with
  | issue => exact absurd free filled
  | request arrival request =>
    obtain ⟨found, next⟩ := adds_of_outcome (serve_outcome server arrival board request) free filled
    exact ⟨⟨arrival, request, rfl, found⟩, next, filled⟩

private theorem step_positive {server : Server} {board : Board} {event : Server.Event}
    (positive : ∀ row ∈ board.notes.rows, 1 ≤ row.id) :
    ∀ row ∈ (server.step board event).notes.rows, 1 ≤ row.id := by
  intro row member
  have present := (row?_eq_some_iff _ row.id row).mpr ⟨member, rfl⟩
  cases before : row? board.notes row.id with
  | none =>
    have adds : Adds server board event row.id := adds_of_filled before (by rw [present]; simp)
    rw [← adds.next]
    exact one_le_nextId positive
  | some old =>
    obtain ⟨earlier, same⟩ := (row?_eq_some_iff _ row.id old).mp before
    rw [← same]
    exact positive old earlier

theorem run_positive {server : Server} {board : Board}
    (positive : ∀ row ∈ board.notes.rows, 1 ≤ row.id) (events : List Server.Event) :
    ∀ row ∈ (server.run board events).notes.rows, 1 ≤ row.id := by
  induction events generalizing board with
  | nil => exact positive
  | cons event events ih => exact ih (step_positive positive)

theorem Adds.free {server : Server} {board : Board} {event : Server.Event} {id : Int}
    (adds : Adds server board event id) : row? board.notes id = none := by
  rw [← adds.next]
  exact row?_nextId board.notes

section origins
variable {server : Server} {start : Board} {id : Int} {earlier since : List Server.Event}
  {adding : Server.Event}

theorem Adds.origin (adds : Adds server (server.run start earlier) adding id) :
    Origin server start id earlier adding [] := by
  refine ⟨adds, ?_⟩
  intro passed none
  rw [List.prefix_nil.mp none, run_concat]
  exact adds.present

theorem Origin.concat (origin : Origin server start id earlier adding since) {event : Server.Event}
    (present : row? (server.run start (earlier ++ adding :: (since ++ [event]))).notes id ≠ none) :
    Origin server start id earlier adding (since ++ [event]) := by
  refine ⟨origin.added, ?_⟩
  intro passed started
  rcases List.prefix_concat_iff.mp started with rfl | sooner
  · exact present
  · exact origin.kept passed sooner

/-- The note under an id is that of an earlier point of a run unless that one was deleted since; then
the id is free, or it was given again to a note added since. -/
theorem Origin.after (origin : Origin server start id earlier adding since)
    (later : List Server.Event) :
    row? (server.run start (earlier ++ adding :: (since ++ later))).notes id = none ∨
    Origin server start id earlier adding (since ++ later) ∨
    ∃ gone anew rest, later = gone ++ anew :: rest ∧
      Origin server start id (earlier ++ adding :: (since ++ gone)) anew rest := by
  induction later using List.reverseRecOn with
  | nil =>
    rw [List.append_nil]
    exact Or.inr (Or.inl origin)
  | append_singleton later event ih =>
    by_cases free :
        row? (server.run start (earlier ++ adding :: (since ++ (later ++ [event])))).notes id = none
    · exact Or.inl free
    · refine Or.inr ?_
      rcases ih with absent | same | ⟨gone, anew, rest, rfl, origin⟩
      · refine Or.inr ⟨later, event, [], rfl, ?_⟩
        have filled := free
        rw [← List.append_assoc, ← List.cons_append, ← List.append_assoc, run_concat] at filled
        exact (adds_of_filled absent filled).origin
      · rw [← List.append_assoc] at free ⊢
        exact Or.inl (same.concat free)
      · refine Or.inr ⟨gone, anew, rest ++ [event], by simp, origin.concat ?_⟩
        simpa using free

end origins

end NoteBoard.Proofs.NoteOrigins
