import Mathlib.Data.Prod.Lex
import NoteBoard.Note.Store

/-! Listings. Each row is listed once, the one changed last first and of two changed at the same time
the one with the larger id; a search lists some of the rows, in the same order. -/

namespace NoteBoard.Proofs.NoteListing

/-- The order of a listing, by change date and then by id. -/
def Before (first second : Note) : Prop :=
  toLex (second.changed, second.id) < toLex (first.changed, first.id)

private theorem before_iff (first second : Note) : Before first second ↔
    second.changed < first.changed ∨ second.changed = first.changed ∧ second.id < first.id :=
  Prod.Lex.toLex_lt_toLex

theorem recentFirst_iff (first second : Note) : Note.recentFirst first second = true ↔
    second.changed < first.changed ∨ first.changed = second.changed ∧ second.id ≤ first.id := by
  simp [Note.recentFirst]

private theorem recentFirst_trans (first second third : Note)
    (left : Note.recentFirst first second = true)
    (right : Note.recentFirst second third = true) : Note.recentFirst first third = true := by
  rw [recentFirst_iff] at *
  omega

private theorem recentFirst_total (first second : Note) :
    (Note.recentFirst first second || Note.recentFirst second first) = true := by
  rw [Bool.or_eq_true, recentFirst_iff, recentFirst_iff]
  omega

theorem mem_listed (store : Store) (note : Note) : note ∈ store.listed ↔ note ∈ store.rows :=
  (List.mergeSort_perm store.rows Note.recentFirst).mem_iff

theorem ids_listed_once (store : Store) : (store.listed.map Note.id).Nodup := by
  have permuted := (List.mergeSort_perm store.rows Note.recentFirst).map Note.id
  refine permuted.nodup_iff.mpr (List.pairwise_map.mpr ?_)
  exact store.ascending.imp fun below => Int.ne_of_lt below

/-- Ids occur once, so no two rows share their place in the order. -/
theorem listed_in_order (store : Store) : store.listed.Pairwise Before := by
  have sorted : store.listed.Pairwise fun first second => Note.recentFirst first second = true :=
    List.pairwise_mergeSort recentFirst_trans recentFirst_total store.rows
  refine sorted.imp₂ ?_ (List.pairwise_map.mp (ids_listed_once store))
  intro first second ordered different
  rw [recentFirst_iff] at ordered
  rw [before_iff]
  omega

theorem search_eq (store : Store) (field : SearchField) {needle : String}
    (short : Like.isTooLong (Like.anywhere needle.toList) = false) :
    store.search field needle = .ok (store.all.filter (Store.finds field needle)) := by
  unfold Store.search Store.all
  rw [short, Bool.and_false, List.filter_map]
  rfl

end NoteBoard.Proofs.NoteListing
