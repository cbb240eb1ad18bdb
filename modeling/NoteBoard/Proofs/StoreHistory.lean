import NoteBoard.Proofs.NoteListing
import NoteBoard.Proofs.NoteTable

/-! The table of notes over its history. Whatever is asked of it, in any order and with any clock, it
answers and changes as a map from ids to notes would, and a listing shows that map. -/

namespace NoteBoard.Proofs.StoreHistory
open NoteListing NoteTable

/-- A reading of the clock: a time that the calendar reaches. -/
structure Reading where
  time : Int
  reached : Calendar.earliest ≤ time ∧ time ≤ Calendar.latest

inductive Operation where
  | add (now : Reading) (title text : String)
  | update (now : Reading) (id : Int) (title text : String)
  | delete (id : Int)
  | get (id : Int)
  | reopen

inductive Answer where
  | added (id : Int)
  | done
  | note (note : Note)
  | failed (error : StoreError)
  deriving DecidableEq

/-- A change that failed leaves the table as it was. -/
def settle (store : Store) : Except StoreError Store → Answer × Store
  | .ok after => (.done, after)
  | .error error => (.failed error, store)

def respond (store : Store) : Operation → Answer × Store
  | .add now title text =>
    let (id, after) := store.add now.time title text
    (.added id, after)
  | .update now id title text => settle store (store.update now.time id title text)
  | .delete id => settle store (store.delete id)
  | .get id =>
    match store.get id with
    | .ok note => (.note note, store)
    | .error error => (.failed error, store)
  | .reopen => (.done, .opened (some store))

def run (store : Store) : List Operation → List Answer × Store
  | [] => ([], store)
  | operation :: operations =>
    let current := respond store operation
    let later := run current.2 operations
    (current.1 :: later.1, later.2)

abbrev Notes := Int → Option Note

def Operation.id? : Operation → Option Int
  | .update _ id _ _ | .delete id | .get id => some id
  | .add .. | .reopen => none

/-- What a map from ids to notes may answer to an operation, and what it is then. -/
inductive Allows (notes : Notes) : Operation → Answer → Notes → Prop where
  | add {now : Reading} {title text : String} {id : Int} (positive : 1 ≤ id)
      (free : notes id = none) :
      Allows notes (.add now title text) (.added id)
        (Function.update notes id (some ⟨id, title, text, now.time, now.time⟩))
  | update {now : Reading} {id : Int} {title text : String} {note : Note}
      (there : notes id = some note) :
      Allows notes (.update now id title text) .done
        (Function.update notes id (some ⟨id, title, text, note.added, now.time⟩))
  | delete {id : Int} {note : Note} (there : notes id = some note) :
      Allows notes (.delete id) .done (Function.update notes id none)
  | get {id : Int} {note : Note} (there : notes id = some note) :
      Allows notes (.get id) (.note note) notes
  | missing {operation : Operation} {id : Int} (named : operation.id? = some id)
      (absent : notes id = none) : Allows notes operation (.failed (.notFound id)) notes
  | reopen : Allows notes .reopen .done notes

/-- A run of operations with answers that a map allows one after the other. -/
inductive Behaves : Notes → List Operation → List Answer → Notes → Prop where
  | nil {notes : Notes} : Behaves notes [] [] notes
  | cons {notes after last : Notes} {operation : Operation} {answer : Answer}
      {operations : List Operation} {answers : List Answer}
      (first : Allows notes operation answer after)
      (rest : Behaves after operations answers last) :
      Behaves notes (operation :: operations) (answer :: answers) last

/-- A listing shows every note of a map once, in the order of listings. -/
structure Lists (notes : Notes) (listing : List Note) : Prop where
  named : ∀ id note, notes id = some note → note.id = id
  shown : ∀ note, note ∈ listing ↔ notes note.id = some note
  once : (listing.map Note.id).Nodup
  ordered : listing.Pairwise fun first second =>
    toLex (second.changed, second.id) < toLex (first.changed, first.id)

def contents (store : Store) : Notes := store.get?

/-- What holds of the rows of every table that is filled by operations only. -/
structure Sound (store : Store) : Prop where
  positive : ∀ row ∈ store.rows, 1 ≤ row.id
  readable : ∀ row ∈ store.rows, row.readable = row

private theorem contents_eq {store : Store} (sound : Sound store) :
    contents store = row? store := by
  funext id
  change (row? store id).map Note.readable = row? store id
  cases found : row? store id with
  | none => rfl
  | some row =>
    have member := ((row?_eq_some_iff store id row).mp found).1
    rw [Option.map_some, sound.readable row member]

theorem readable_of_reached (now : Reading) : Calendar.readable now.time = now.time :=
  if_pos now.reached

private theorem sound_opened : Sound (.opened none) := by
  constructor
  all_goals
    intro row member
    cases member

/-- A table stays sound if its rows change under one id only, to a sound row. -/
theorem Sound.changed {store after : Store} (sound : Sound store) {id : Int} {row : Option Note}
    (table : row? after = Function.update (row? store) id row)
    (fits : ∀ note, row = some note → 1 ≤ note.id ∧ note.readable = note) : Sound after := by
  have rows (note : Note) (member : note ∈ after.rows) : 1 ≤ note.id ∧ note.readable = note := by
    have found := (row?_eq_some_iff after note.id note).mpr ⟨member, rfl⟩
    rw [table] at found
    by_cases own : note.id = id
    · rw [own, Function.update_self] at found
      exact fits note found
    · rw [Function.update_of_ne own, row?_eq_some_iff] at found
      exact ⟨sound.positive note found.1, sound.readable note found.1⟩
  exact ⟨fun note member => (rows note member).1, fun note member => (rows note member).2⟩

/-- One operation on a sound table leaves it sound, and does what the map allows. -/
structure Steps (store : Store) (operation : Operation) (answer : Answer) (after : Store) : Prop where
  allowed : Allows (row? store) operation answer (row? after)
  sound : Sound after

private theorem add_steps {store : Store} (sound : Sound store) (now : Reading)
    (title text : String) :
    Steps store (.add now title text) (.added store.nextId)
      (store.add now.time title text).2 := by
  have positive := one_le_nextId sound.positive
  have table := row?_add store now.time title text
  constructor
  · rw [table]
    exact .add positive (row?_nextId store)
  · refine sound.changed table ?_
    rintro _ ⟨⟩
    exact ⟨positive, by simp [Note.readable, readable_of_reached]⟩

theorem missing_steps {store : Store} (sound : Sound store) {operation : Operation} {id : Int}
    (named : operation.id? = some id) (absent : row? store id = none) :
    Steps store operation (.failed (.notFound id)) store :=
  ⟨.missing named absent, sound⟩

private theorem update_steps {store : Store} (sound : Sound store) (now : Reading) (id : Int)
    (title text : String) :
    Steps store (.update now id title text)
      (settle store (store.update now.time id title text)).1
      (settle store (store.update now.time id title text)).2 := by
  rcases update_outcome store now.time id title text with
    ⟨row, after, found, equal, table⟩ | ⟨absent, equal⟩
  · rw [equal]
    obtain ⟨member, rfl⟩ := (row?_eq_some_iff store id row).mp found
    have added : Calendar.readable row.added = row.added :=
      congrArg Note.added (sound.readable row member)
    constructor
    · rw [settle, table]
      exact .update found
    · refine sound.changed table ?_
      rintro _ ⟨⟩
      exact ⟨sound.positive row member, by simp [Note.readable, readable_of_reached, added]⟩
  · rw [equal]
    exact missing_steps sound rfl absent

private theorem delete_steps {store : Store} (sound : Sound store) (id : Int) :
    Steps store (.delete id) (settle store (store.delete id)).1
      (settle store (store.delete id)).2 := by
  rcases delete_outcome store id with ⟨row, after, found, equal, table⟩ | ⟨absent, equal⟩
  · rw [equal]
    constructor
    · rw [settle, table]
      exact .delete found
    · refine sound.changed table ?_
      rintro _ ⟨⟩
  · rw [equal]
    exact missing_steps sound rfl absent

private theorem get_steps {store : Store} (sound : Sound store) (id : Int) :
    Steps store (.get id) (respond store (.get id)).1 (respond store (.get id)).2 := by
  simp only [respond, get_eq]
  cases found : row? store id with
  | none => exact missing_steps sound rfl found
  | some row =>
    have member := ((row?_eq_some_iff store id row).mp found).1
    dsimp only
    rw [sound.readable row member]
    exact ⟨.get found, sound⟩

private theorem respond_steps {store : Store} (sound : Sound store) (operation : Operation) :
    Steps store operation (respond store operation).1 (respond store operation).2 := by
  cases operation with
  | add now title text => exact add_steps sound now title text
  | update now id title text => exact update_steps sound now id title text
  | delete id => exact delete_steps sound id
  | get id => exact get_steps sound id
  | reopen => exact ⟨.reopen, sound⟩

private theorem run_behaves {store : Store} (sound : Sound store) (operations : List Operation) :
    Sound (run store operations).2 ∧
      Behaves (row? store) operations (run store operations).1 (row? (run store operations).2) := by
  induction operations generalizing store with
  | nil => exact ⟨sound, .nil⟩
  | cons operation operations ih =>
    have first := respond_steps sound operation
    obtain ⟨last, rest⟩ := ih first.sound
    exact ⟨last, .cons first.allowed rest⟩

private theorem all_eq_listed {store : Store} (sound : Sound store) : store.all = store.listed := by
  refine (List.map_congr_left fun row member => ?_).trans (List.map_id _)
  exact sound.readable row ((mem_listed store row).mp member)

private theorem lists_all {store : Store} (sound : Sound store) : Lists (row? store) store.all := by
  rw [all_eq_listed sound]
  refine ⟨fun id row => id_of_row?, ?_, ids_listed_once store, listed_in_order store⟩
  intro note
  rw [mem_listed, row?_eq_some_iff]
  simp

/-- Over any run of operations on a new table, with clock readings in any order, the table answers as
a map from ids to notes does, and its listing then shows this map. An add gives the note an id that
is free and positive, an update keeps the id and the date of the add, an absent id is reported and
nothing changes, and no operation touches another note. -/
theorem run_behaves_as_map (operations : List Operation) :
    let answers := (run (.opened none) operations).1
    let store := (run (.opened none) operations).2
    Behaves (fun _ => none) operations answers (contents store) ∧
      Lists (contents store) store.all := by
  intro answers store
  obtain ⟨sound, behaves⟩ := run_behaves sound_opened operations
  rw [contents_eq sound]
  exact ⟨behaves, lists_all sound⟩

/-- The id of a deleted note is given again, and the clock may go back. -/
example : (run (.opened none) [.add ⟨5, by decide⟩ "a" "", .delete 1, .add ⟨3, by decide⟩ "b" "",
    .get 1, .delete 2]).1 =
      [.added 1, .done, .added 1, .note ⟨1, "b", "", 3, 3⟩, .failed (.notFound 2)] := by
  decide

end NoteBoard.Proofs.StoreHistory
