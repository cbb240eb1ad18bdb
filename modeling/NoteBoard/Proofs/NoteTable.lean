import Mathlib.Logic.Function.Basic
import NoteBoard.Note.Store

/-! The table of notes as a finite map from ids to rows. What each operation does is one update of
that map, and the map determines the table. -/

namespace NoteBoard.Proofs.NoteTable

/-- The row stored under an id, with its dates as they are stored. -/
def row? (store : Store) (id : Int) : Option Note := store.rows.find? (·.id == id)

theorem id_of_row? {store : Store} {id : Int} {row : Note} (found : row? store id = some row) :
    row.id = id := by
  simpa using List.find?_some found

/-- Ids occur once, so the row found under an id is the only one that bears it. -/
theorem row?_eq_some_iff (store : Store) (id : Int) (row : Note) :
    row? store id = some row ↔ row ∈ store.rows ∧ row.id = id := by
  constructor
  · intro found
    exact ⟨List.mem_of_find?_eq_some found, id_of_row? found⟩
  · rintro ⟨member, rfl⟩
    obtain ⟨before, after, split⟩ := List.append_of_mem member
    have ascending := store.ascending
    rw [split, List.pairwise_append] at ascending
    have absent : ∀ other ∈ before, ¬ (other.id == row.id) = true := by
      intro other earlier same
      have below := ascending.2.2 other earlier row List.mem_cons_self
      have equal := beq_iff_eq.mp same
      omega
    unfold row?
    rw [split, List.find?_append, List.find?_eq_none.mpr absent]
    simp

theorem has_eq_isSome (store : Store) (id : Int) : store.has id = (row? store id).isSome := by
  rw [Bool.eq_iff_iff, row?, List.find?_isSome, Store.has, List.any_eq_true]

theorem get_eq (store : Store) (id : Int) :
    store.get id = match row? store id with
      | some row => .ok row.readable
      | none => .error (.notFound id) := by
  unfold Store.get Store.get?
  cases found : row? store id <;> rw [row?] at found <;> simp [found]

private theorem row?_insert (store : Store) (note : Note) (fresh : store.has note.id = false) :
    row? (store.insert note fresh) = Function.update (row? store) note.id (some note) := by
  funext id
  apply Option.ext
  intro row
  rw [row?_eq_some_iff]
  change row ∈ Store.insertRow note store.rows ∧ row.id = id ↔ _
  rw [Store.mem_insertRow]
  by_cases own : id = note.id
  · subst own
    rw [Function.update_self, Option.some.injEq]
    constructor
    · rintro ⟨rfl | member, same⟩
      · rfl
      · exact absurd same ((store.has_eq_false_iff _).mp fresh row member)
    · rintro rfl
      exact ⟨Or.inl rfl, rfl⟩
  · rw [Function.update_of_ne own, row?_eq_some_iff]
    constructor
    · rintro ⟨rfl | member, same⟩
      · exact absurd same.symm own
      · exact ⟨member, same⟩
    · rintro ⟨member, same⟩
      exact ⟨Or.inr member, same⟩

theorem row?_nextId (store : Store) : row? store store.nextId = none := by
  have free := store.nextId_fresh
  rw [has_eq_isSome] at free
  exact Option.isNone_iff_eq_none.mp (by simpa using free)

theorem one_le_nextId {store : Store} (positive : ∀ row ∈ store.rows, 1 ≤ row.id) :
    1 ≤ store.nextId := by
  unfold Store.nextId
  split
  next => exact Int.le_refl 1
  next last ends =>
    have := positive last (List.mem_of_getLast? ends)
    split
    · omega
    · exact Store.le_firstFree 1 store.rows

private theorem firstFree_le (candidate : Int) (rows : List Note) :
    Store.firstFree candidate rows ≤ candidate + rows.length := by
  fun_induction Store.firstFree candidate rows with
  | case1 => simp
  | case2 candidate row rows below ih =>
    rw [List.length_cons]
    omega
  | case3 row rows notBelow ih =>
    rw [List.length_cons]
    omega
  | case4 => omega

theorem nextId_le {store : Store} (room : store.rows.length < Note.largestId) :
    store.nextId ≤ Note.largestId := by
  unfold Store.nextId
  split
  next => decide
  next last ends =>
    have := firstFree_le 1 store.rows
    split <;> omega

theorem row?_add (store : Store) (now : Int) (title text : String) :
    row? (store.add now title text).2 =
      Function.update (row? store) store.nextId (some ⟨store.nextId, title, text, now, now⟩) :=
  row?_insert store ⟨store.nextId, title, text, now, now⟩ store.nextId_fresh

private theorem row?_replaced (store : Store) (now : Int) (id : Int) (title text : String)
    (other : Int) :
    (store.rows.map (Store.replace id now title text)).find? (·.id == other) =
      (row? store other).map (Store.replace id now title text) := by
  rw [List.find?_map]
  congr 2
  funext row
  simp [Store.replace_id]

theorem update_eq_ok {store after : Store} {now id : Int} {title text : String}
    (updated : store.update now id title text = .ok after) :
    row? after = Function.update (row? store) id
      ((row? store id).map fun row => { row with title, text, changed := now }) := by
  unfold Store.update at updated
  split at updated
  next present =>
    cases updated
    funext other
    change (store.rows.map (Store.replace id now title text)).find? (·.id == other) = _
    rw [row?_replaced]
    by_cases own : other = id
    · subst own
      rw [Function.update_self]
      refine Option.map_congr fun row found => ?_
      rw [Store.replace, if_pos (id_of_row? found)]
    · rw [Function.update_of_ne own]
      cases found : row? store other with
      | none => rfl
      | some row =>
        have different : row.id ≠ id := id_of_row? found ▸ own
        rw [Option.map_some, Store.replace, if_neg different]
  next missing => cases updated

theorem delete_eq_ok {store after : Store} {id : Int} (deleted : store.delete id = .ok after) :
    row? after = Function.update (row? store) id none := by
  unfold Store.delete at deleted
  split at deleted
  next present =>
    cases deleted
    funext other
    apply Option.ext
    intro row
    rw [row?_eq_some_iff]
    change row ∈ store.rows.filter (·.id != id) ∧ row.id = other ↔ _
    rw [List.mem_filter, bne_iff_ne]
    by_cases own : other = id
    · subst own
      rw [Function.update_self]
      simp
    · rw [Function.update_of_ne own, row?_eq_some_iff]
      constructor
      · rintro ⟨⟨member, _⟩, same⟩
        exact ⟨member, same⟩
      · rintro ⟨member, same⟩
        exact ⟨⟨member, same ▸ own⟩, same⟩
  next missing => cases deleted

theorem update_outcome (store : Store) (now id : Int) (title text : String) :
    (∃ row after, row? store id = some row ∧ store.update now id title text = .ok after ∧
      row? after = Function.update (row? store) id
        (some { row with title, text, changed := now })) ∨
    row? store id = none ∧ store.update now id title text = .error (.notFound id) := by
  cases found : row? store id with
  | none =>
    have absent : store.has id = false := by rw [has_eq_isSome, found]; rfl
    exact Or.inr ⟨rfl, by rw [Store.update, absent]; rfl⟩
  | some row =>
    have present : store.has id = true := by rw [has_eq_isSome, found]; rfl
    cases updated : store.update now id title text with
    | error error => simp [Store.update, present] at updated
    | ok after =>
      refine Or.inl ⟨row, after, rfl, rfl, ?_⟩
      rw [update_eq_ok updated, found, Option.map_some]

theorem delete_outcome (store : Store) (id : Int) :
    (∃ row after, row? store id = some row ∧ store.delete id = .ok after ∧
      row? after = Function.update (row? store) id none) ∨
    row? store id = none ∧ store.delete id = .error (.notFound id) := by
  cases found : row? store id with
  | none =>
    have absent : store.has id = false := by rw [has_eq_isSome, found]; rfl
    exact Or.inr ⟨rfl, by rw [Store.delete, absent]; rfl⟩
  | some row =>
    have present : store.has id = true := by rw [has_eq_isSome, found]; rfl
    cases deleted : store.delete id with
    | error error => simp [Store.delete, present] at deleted
    | ok after => exact Or.inl ⟨row, after, rfl, rfl, delete_eq_ok deleted⟩

end NoteBoard.Proofs.NoteTable
