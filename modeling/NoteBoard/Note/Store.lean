import NoteBoard.Note.Calendar
import NoteBoard.Note.Like

/-! The table of notes. Its rows are kept in ascending order of their ids, so every id occurs
once; listings put the note changed last first. -/

namespace NoteBoard

inductive StoreError where
  | notFound (id : Int)
  /-- The search pattern is longer than the table takes. -/
  | patternTooComplex
  /-- A fault while the table was held has left it locked. -/
  | unavailable
  deriving DecidableEq, Repr

def StoreError.message : StoreError → String
  | .notFound id => "Note not found: " ++ toString id
  | .patternTooComplex => "Database error: LIKE or GLOB pattern too complex"
  | .unavailable => "Note store is unavailable"

/-- A note as it is read: dates beyond the calendar read as the start of 1970. -/
def Note.readable (note : Note) : Note :=
  { note with added := Calendar.readable note.added, changed := Calendar.readable note.changed }

def Note.recentFirst (a b : Note) : Bool :=
  b.changed < a.changed || (a.changed == b.changed && b.id ≤ a.id)

structure Store where
  rows : List Note
  ascending : rows.Pairwise fun a b => a.id < b.id

namespace Store

def empty : Store := ⟨[], .nil⟩

/-- The table of a database that is opened: the one that it holds, or a new one. -/
def opened (held : Option Store) : Store := held.getD empty

def has (store : Store) (id : Int) : Bool := store.rows.any (·.id == id)

theorem has_eq_false_iff (store : Store) (id : Int) :
    store.has id = false ↔ ∀ row ∈ store.rows, row.id ≠ id := by
  simp [has]

def insertRow (note : Note) : List Note → List Note
  | [] => [note]
  | row :: rows => if note.id < row.id then note :: row :: rows else row :: insertRow note rows

theorem mem_insertRow (note other : Note) (rows : List Note) :
    other ∈ insertRow note rows ↔ other = note ∨ other ∈ rows := by
  induction rows with
  | nil => simp [insertRow]
  | cons row rows ih =>
    unfold insertRow
    split
    · simp
    · simp only [List.mem_cons, ih]
      exact or_left_comm

theorem ascending_insertRow (note : Note) (rows : List Note)
    (ascending : rows.Pairwise fun a b => a.id < b.id) (fresh : ∀ row ∈ rows, row.id ≠ note.id) :
    (insertRow note rows).Pairwise fun a b => a.id < b.id := by
  induction rows with
  | nil => simp [insertRow]
  | cons row rows ih =>
    obtain ⟨above, rest⟩ := List.pairwise_cons.mp ascending
    unfold insertRow
    split
    next below =>
      refine List.pairwise_cons.mpr ⟨fun other member => ?_, ascending⟩
      rcases List.mem_cons.mp member with rfl | later
      · exact below
      · exact Int.lt_trans below (above other later)
    next notBelow =>
      have different := fresh row List.mem_cons_self
      refine List.pairwise_cons.mpr ⟨fun other member => ?_, ih rest fun r m => fresh r (.tail _ m)⟩
      rcases (mem_insertRow ..).mp member with rfl | later
      · omega
      · exact above other later

/-- Puts a note under an id that is not in use. -/
def insert (store : Store) (note : Note) (fresh : store.has note.id = false) : Store :=
  ⟨insertRow note store.rows,
    ascending_insertRow note store.rows store.ascending ((store.has_eq_false_iff _).mp fresh)⟩

def insert? (store : Store) (note : Note) : Option Store :=
  if fresh : store.has note.id = false then some (store.insert note fresh) else none

/-- The least id from `candidate` on that rows in ascending order leave free. -/
def firstFree : Int → List Note → Int
  | candidate, [] => candidate
  | candidate, row :: rows =>
    if row.id < candidate then firstFree candidate rows
    else if row.id = candidate then firstFree (candidate + 1) rows
    else candidate

/-- One more than the largest id, or 1 in an empty table. If the largest id of all is taken, any
free id serves, and the least positive one is chosen. -/
def nextId (store : Store) : Int :=
  match store.rows.getLast? with
  | none => 1
  | some last => if last.id < Note.largestId then last.id + 1 else firstFree 1 store.rows

theorem le_firstFree (candidate : Int) (rows : List Note) :
    candidate ≤ firstFree candidate rows := by
  fun_induction firstFree candidate rows with
  | case1 => exact Int.le_refl _
  | case2 _ _ _ _ ih => exact ih
  | case3 _ _ _ ih => omega
  | case4 => exact Int.le_refl _

theorem firstFree_fresh (candidate : Int) (rows : List Note)
    (ascending : rows.Pairwise fun a b => a.id < b.id) :
    ∀ row ∈ rows, row.id ≠ firstFree candidate rows := by
  fun_induction firstFree candidate rows with
  | case1 => simp
  | case2 candidate row rows below ih =>
    obtain ⟨_, rest⟩ := List.pairwise_cons.mp ascending
    intro other member
    rcases List.mem_cons.mp member with rfl | later
    · have := le_firstFree candidate rows
      omega
    · exact ih rest other later
  | case3 row rows _ ih =>
    obtain ⟨_, rest⟩ := List.pairwise_cons.mp ascending
    intro other member
    rcases List.mem_cons.mp member with rfl | later
    · have := le_firstFree (other.id + 1) rows
      omega
    · exact ih rest other later
  | case4 candidate row rows notBelow different =>
    obtain ⟨above, _⟩ := List.pairwise_cons.mp ascending
    intro other member
    rcases List.mem_cons.mp member with rfl | later
    · exact different
    · have := above other later
      omega

theorem le_last_of_ascending (rows : List Note) (last : Note)
    (ascending : rows.Pairwise fun a b => a.id < b.id) (ends : rows.getLast? = some last) :
    ∀ row ∈ rows, row.id ≤ last.id := by
  obtain ⟨front, rfl⟩ := List.getLast?_eq_some_iff.mp ends
  obtain ⟨_, _, below⟩ := List.pairwise_append.mp ascending
  intro row member
  rcases List.mem_append.mp member with earlier | final
  · exact Int.le_of_lt (below row earlier last (List.mem_singleton.mpr rfl))
  · simp_all

theorem nextId_fresh (store : Store) : store.has store.nextId = false := by
  rw [has_eq_false_iff]
  unfold nextId
  split
  next none => simp_all
  next last ends =>
    split
    · intro row member
      have := le_last_of_ascending store.rows last store.ascending ends row member
      omega
    · exact firstFree_fresh 1 store.rows store.ascending

def get? (store : Store) (id : Int) : Option Note :=
  (store.rows.find? (·.id == id)).map Note.readable

def get (store : Store) (id : Int) : Except StoreError Note :=
  match store.get? id with
  | some note => .ok note
  | none => .error (.notFound id)

def add (store : Store) (now : Int) (title text : String) : Int × Store :=
  (store.nextId, store.insert ⟨store.nextId, title, text, now, now⟩ store.nextId_fresh)

def replace (id : Int) (now : Int) (title text : String) (row : Note) : Note :=
  if row.id = id then { row with title, text, changed := now } else row

theorem replace_id (id : Int) (now : Int) (title text : String) (row : Note) :
    (replace id now title text row).id = row.id := by
  unfold replace
  split <;> rfl

def update (store : Store) (now : Int) (id : Int) (title text : String) :
    Except StoreError Store :=
  if store.has id then
    .ok ⟨store.rows.map (replace id now title text),
      List.pairwise_map.mpr (by simpa only [replace_id] using store.ascending)⟩
  else .error (.notFound id)

def delete (store : Store) (id : Int) : Except StoreError Store :=
  if store.has id then .ok ⟨store.rows.filter (·.id != id), store.ascending.filter _⟩
  else .error (.notFound id)

def listed (store : Store) : List Note := store.rows.mergeSort Note.recentFirst

def all (store : Store) : List Note := store.listed.map Note.readable

def finds (field : SearchField) (needle : String) (note : Note) : Bool :=
  let hit (text : String) := Like.like (Like.anywhere needle.toList) text.toList
  match field with
  | .title => hit note.title
  | .text => hit note.text
  | .both => hit note.title || hit note.text

/-- The notes with the needle in the field. The pattern is only looked at when there is a row to
try it on. -/
def search (store : Store) (field : SearchField) (needle : String) :
    Except StoreError (List Note) :=
  if !store.rows.isEmpty && Like.isTooLong (Like.anywhere needle.toList) then
    .error .patternTooComplex
  else .ok ((store.listed.filter (finds field needle)).map Note.readable)

end Store

end NoteBoard
