import NoteBoard.Proofs.NoteListing
import NoteBoard.Proofs.PageAddresses
import NoteBoard.Proofs.PerformEffects

/-! Where the links and the forms of the pages lead. The ids that the table of notes gives out are
those that the routes take, so an address leads to the note that it was written for. -/

namespace NoteBoard.Proofs.PageLinks
open Html NoteTable PageAddresses

def destination (address : String) : Except RouteError Route :=
  RouteTable.board.find (Request.decodePath address)

/-- The links of a page lead to some routes and its forms are sent to others. Following a link changes
nothing, and nothing but a form leads to a route that asks for a token. -/
structure LeadsTo (page : Document) (links forms : List Route) : Prop where
  linked : (addresses .link page).map destination = links.map .ok
  sent : (addresses .form page).map destination = forms.map .ok
  viewing : ∀ route ∈ links, route.mutates = false
  changing : ∀ route ∈ forms, route.mutates = true

/-- The tables that adds, updates and deletes make of an empty database. An add succeeds as long as
there is an id left. -/
inductive Reached : Store → Prop where
  | opened : Reached (.opened none)
  | add {store : Store} (reached : Reached store) (room : store.rows.length < Note.largestId)
      (now : Int) (title text : String) : Reached (store.add now title text).2
  | update {store after : Store} {now id : Int} {title text : String} (reached : Reached store)
      (updated : store.update now id title text = .ok after) : Reached after
  | delete {store after : Store} {id : Int} (reached : Reached store)
      (deleted : store.delete id = .ok after) : Reached after

/-- What the pages about the notes of a table lead to, and where a note is shown that was saved. -/
structure Navigable (store : Store) : Prop where
  index : ∀ notes filtered, notes ⊆ store.all → LeadsTo (Page.index notes filtered)
    (.addNote :: ((if filtered then [.index] else []) ++ notes.map fun note => .note .view note.id)) []
  add : ∀ token, LeadsTo (Page.add token) [.index] [.newNote]
  note : ∀ note ∈ store.all, LeadsTo (Page.note note)
    [.note .edit note.id, .note .delete note.id, .note .paste note.id, .index] []
  edit : ∀ note ∈ store.all, ∀ token,
    LeadsTo (Page.edit note token) [.note .view note.id] [.note .save note.id]
  delete : ∀ note ∈ store.all, ∀ token,
    LeadsTo (Page.delete note token) [.note .view note.id] [.note .confirmDelete note.id]
  paste : ∀ note ∈ store.all, ∀ token,
    LeadsTo (Page.paste note token) [.note .view note.id] [.note .confirmPaste note.id]
  saved : ∀ note ∈ store.all, ∀ exporter board now form, board.notes = store →
    ∃ response address after,
      Board.perform exporter board now (.note .save note.id) form = (.ok response, after) ∧
        response.location = some address ∧ destination address = .ok (.note .view note.id)

theorem destination_fixed : destination "/" = .ok .index ∧ destination "/AddNote/" = .ok .addNote ∧
    destination "/NewNote/" = .ok .newNote := by
  unfold destination
  rw [PercentRoundTrip.decodePath_of_plain (by decide), PercentRoundTrip.decodePath_of_plain (by decide),
    PercentRoundTrip.decodePath_of_plain (by decide)]
  exact ⟨rfl, rfl, rfl⟩

/-- The ids of the rows are those that the path of a note can have. -/
def Routable (store : Store) : Prop :=
  ∀ row ∈ store.rows, 1 ≤ row.id ∧ row.id ≤ Note.largestId

theorem Routable.of_rows {before after : Store} (routable : Routable before)
    (rows : ∀ row ∈ after.rows, ∃ earlier ∈ before.rows, earlier.id = row.id) : Routable after := by
  intro row member
  obtain ⟨earlier, there, same⟩ := rows row member
  exact same ▸ routable earlier there

theorem Routable.add {store : Store} (routable : Routable store)
    (room : store.rows.length < Note.largestId) (now : Int) (title text : String) :
    Routable (store.add now title text).2 := by
  intro row member
  rcases (Store.mem_insertRow ..).mp member with rfl | old
  · exact ⟨one_le_nextId fun other there => (routable other there).1, nextId_le room⟩
  · exact routable row old

private theorem rows_of_update {store after : Store} {now id : Int} {title text : String}
    (updated : store.update now id title text = .ok after) :
    after.rows = store.rows.map (Store.replace id now title text) := by
  unfold Store.update at updated
  split at updated
  next =>
    cases updated
    rfl
  next => cases updated

private theorem rows_of_delete {store after : Store} {id : Int}
    (deleted : store.delete id = .ok after) :
    after.rows = store.rows.filter (·.id != id) := by
  unfold Store.delete at deleted
  split at deleted
  next =>
    cases deleted
    rfl
  next => cases deleted

private theorem routable_of_reached {store : Store} (reached : Reached store) : Routable store := by
  induction reached with
  | opened => exact fun row member => nomatch member
  | add reached room now title text ih => exact ih.add room now title text
  | update reached updated ih =>
    refine ih.of_rows fun row member => ?_
    rw [rows_of_update updated] at member
    obtain ⟨earlier, there, rfl⟩ := List.mem_map.mp member
    exact ⟨earlier, there, (Store.replace_id ..).symm⟩
  | delete reached deleted ih =>
    refine ih.of_rows fun row member => ?_
    rw [rows_of_delete deleted] at member
    exact ⟨row, (List.mem_filter.mp member).1, rfl⟩

theorem row_of_mem_all {store : Store} {note : Note} (member : note ∈ store.all) :
    ∃ row ∈ store.rows, row.id = note.id := by
  obtain ⟨row, listed, rfl⟩ := List.mem_map.mp member
  exact ⟨row, (NoteListing.mem_listed store row).mp listed, rfl⟩

theorem Routable.destination_path {store : Store} (routable : Routable store) {note : Note}
    (member : note ∈ store.all) (action : NoteAction) :
    destination (action.path note.id) = .ok (.note action note.id) := by
  obtain ⟨row, there, same⟩ := row_of_mem_all member
  obtain ⟨positive, within⟩ := routable row there
  have natural : 0 ≤ note.id := by omega
  rw [destination, DecimalText.decodePath_path action natural,
    DecimalText.find_path action natural (same ▸ within)]

private theorem isHeaderValue_append (first second : String) :
    Response.isHeaderValue (first ++ second) =
      (Response.isHeaderValue first && Response.isHeaderValue second) := by
  unfold Response.isHeaderValue
  rw [String.toList_append, List.all_append]

private theorem isHeaderValue_digits (n : Nat) :
    Response.isHeaderValue (String.ofList (Nat.toDigits 10 n)) = true := by
  rw [Response.isHeaderValue, String.toList_ofList, List.all_eq_true]
  intro c member
  have bounds : 48 ≤ c.toNat ∧ c.toNat ≤ 57 := by
    simpa [Char.isDigit, UInt32.le_iff_toNat_le] using (DecimalText.digits_toDigits n).2 c member
  simp only [Bool.or_eq_true, Bool.and_eq_true, decide_eq_true_eq, bne_iff_ne]
  omega

private theorem found_path (action : NoteAction) {id : Int} (natural : 0 ≤ id) :
    (Response.found (action.path id)).location = some (action.path id) := by
  obtain ⟨n, rfl⟩ := Int.eq_ofNat_of_zero_le natural
  have lead : Response.isHeaderValue action.lead = true := by cases action <;> decide
  have sendable : Response.isHeaderValue (action.path n) = true := by
    rw [DecimalText.path_natCast, isHeaderValue_append, lead, isHeaderValue_digits]
    rfl
  rw [Response.found, if_pos sendable]

theorem leadsTo_form {store : Store} (routable : Routable store) {note : Note}
    (member : note ∈ store.all) {page : Document} {action : NoteAction}
    (mutates : action.mutates = true)
    (carries : Carries .link page [NoteAction.view.path note.id] ∧
      Carries .form page [action.path note.id]) :
    LeadsTo page [.note .view note.id] [.note action note.id] where
  linked := by
    rw [carries.1.addresses_eq, List.map_singleton, List.map_singleton,
      routable.destination_path member]
  sent := by
    rw [carries.2.addresses_eq, List.map_singleton, List.map_singleton,
      routable.destination_path member]
  viewing := List.forall_mem_singleton.mpr rfl
  changing := List.forall_mem_singleton.mpr mutates

private theorem leadsTo_note {store : Store} (routable : Routable store) {note : Note}
    (member : note ∈ store.all) : LeadsTo (Page.note note)
      [.note .edit note.id, .note .delete note.id, .note .paste note.id, .index] [] where
  linked := by
    rw [(carries_note note).1.addresses_eq]
    simp only [List.map_cons, List.map_nil, routable.destination_path member, destination_fixed]
  sent := by rw [(carries_note note).2.addresses_eq]; rfl
  viewing := by simp [Route.mutates, NoteAction.mutates]
  changing := nofun

private theorem leadsTo_index {store : Store} (routable : Routable store) {notes : List Note}
    (listed : notes ⊆ store.all) (filtered : Bool) : LeadsTo (Page.index notes filtered)
      (.addNote :: ((if filtered then [.index] else []) ++ notes.map fun note => .note .view note.id))
      [] where
  linked := by
    have rows : (notes.map fun note => NoteAction.view.path note.id).map destination =
        (notes.map fun note => Route.note .view note.id).map .ok := by
      rw [List.map_map, List.map_map]
      exact List.map_congr_left fun note member => routable.destination_path (listed member) .view
    have notice : (if filtered then ["/"] else []).map destination =
        (if filtered then [Route.index] else []).map .ok := by
      cases filtered
      · rfl
      · exact congrArg (· :: []) destination_fixed.1
    rw [(carries_index notes filtered).1.addresses_eq, List.map_cons, List.map_cons, List.map_append,
      List.map_append, rows, notice, destination_fixed.2.1]
  sent := by rw [(carries_index notes filtered).2.addresses_eq]; rfl
  viewing := by
    refine List.forall_mem_cons.mpr ⟨rfl, List.forall_mem_append.mpr ⟨?_, ?_⟩⟩
    · cases filtered
      · exact List.forall_mem_nil _
      · exact List.forall_mem_singleton.mpr rfl
    · exact List.forall_mem_map.mpr fun _ _ => rfl
  changing := nofun

private theorem leadsTo_add (token : Token) : LeadsTo (Page.add token) [.index] [.newNote] where
  linked := by
    rw [(carries_add token).1.addresses_eq, List.map_singleton, destination_fixed.1]
    rfl
  sent := by
    rw [(carries_add token).2.addresses_eq, List.map_singleton, destination_fixed.2.2]
    rfl
  viewing := List.forall_mem_singleton.mpr rfl
  changing := List.forall_mem_singleton.mpr rfl

private theorem saved_location {board : Board} (routable : Routable board.notes) {note : Note}
    (member : note ∈ board.notes.all) (exporter : Option Exporter) (now : Int) (form : Form) :
    ∃ response address after,
      Board.perform exporter board now (.note .save note.id) form = (.ok response, after) ∧
        response.location = some address ∧ destination address = .ok (.note .view note.id) := by
  obtain ⟨row, there, same⟩ := row_of_mem_all member
  rcases PerformEffects.save_cases board now note.id form with ⟨_, notes, _, _, done⟩ | ⟨missing, _⟩
  · have positive := (routable row there).1
    exact ⟨_, _, _, done, found_path .view (by omega), routable.destination_path member .view⟩
  · rw [(row?_eq_some_iff board.notes note.id row).mpr ⟨there, same⟩] at missing
    cases missing

/-- Whatever has been added, changed and deleted, the addresses in the pages about the notes that are
there lead to what they are written for, and so does the path to which saving a note redirects. -/
theorem pages_lead_to_routes {store : Store} (reached : Reached store) : Navigable store := by
  have routable := routable_of_reached reached
  constructor
  · intro notes filtered listed
    exact leadsTo_index routable listed filtered
  · exact leadsTo_add
  · intro note member
    exact leadsTo_note routable member
  · intro note member token
    exact leadsTo_form routable member rfl (carries_edit note token)
  · intro note member token
    exact leadsTo_form routable member rfl (carries_delete note token)
  · intro note member token
    exact leadsTo_form routable member rfl (carries_paste note token)
  · rintro note member exporter board now form rfl
    exact saved_location routable member exporter now form

def filled : Store := ((Store.empty.add 0 "a" "").2.add 1 "b" "").2

def changed : Store := ⟨[⟨2, "b", "c", 1, 3⟩], List.pairwise_singleton _ _⟩

theorem changed_pages_lead_to_routes :
    Reached changed ∧ changed.all = [⟨2, "b", "c", 1, 3⟩] ∧ Navigable changed := by
  have started : Reached filled := .add (.add .opened (by decide) 0 "a" "") (by decide) 1 "b" ""
  have steps : ∃ revised, filled.update 3 2 "b" "c" = .ok revised ∧ revised.delete 1 = .ok changed :=
    ⟨_, rfl, rfl⟩
  obtain ⟨revised, updated, deleted⟩ := steps
  have reached : Reached changed := .delete (.update started updated) deleted
  have listed : changed.all = [⟨2, "b", "c", 1, 3⟩] := by
    rw [Store.all, Store.listed, changed, List.mergeSort_singleton]
    decide
  exact ⟨reached, listed, pages_lead_to_routes reached⟩

end NoteBoard.Proofs.PageLinks
