import Mathlib.Data.List.Permutation
import Mathlib.Data.List.TakeWhile
import NoteBoard.Proofs.AsciiLetters
import NoteBoard.Proofs.LikePattern
import NoteBoard.Proofs.NoteListing
import NoteBoard.Route.Pattern

/-! What a search for a needle of letters, digits and spaces lists. A note is found if the needle
stands in its title or text, in either case of its letters, before the first NUL. -/

namespace NoteBoard.Proofs.NeedleSearch
open AsciiLetters Like LikePattern NoteListing

/-- The needle is a contiguous part of the text, the case of ASCII letters aside. -/
def Holds (needle text : List Char) : Prop := needle.map Char.toLower <:+: text.map Char.toLower

instance (needle text : List Char) : Decidable (Holds needle text) :=
  inferInstanceAs (Decidable (_ <:+: _))

def searched : SearchField → Note → List String
  | .title, note => [note.title]
  | .text, note => [note.text]
  | .both, note => [note.title, note.text]

def contains (field : SearchField) (needle : String) (note : Note) : Bool :=
  (searched field note).any fun text => Holds needle.toList text.toList

/-- The same with each text taken up to its first NUL. -/
def containsBeforeNul (field : SearchField) (needle : String) (note : Note) : Bool :=
  (searched field note).any fun text =>
    Holds needle.toList (text.toList.takeWhile (· ≠ '\x00'))

theorem ne_of_isFilterChar {c sign : Char} (allowed : isFilterChar c = true)
    (barred : isFilterChar sign = false) : c ≠ sign := by
  rintro rfl
  rw [allowed] at barred
  cases barred

private theorem ascii_of_isFilterChar {c : Char} (allowed : isFilterChar c = true) :
    c.toNat < 128 := by
  rw [isFilterChar, Bool.or_eq_true, beq_iff_eq] at allowed
  rcases allowed with alphanum | rfl
  · exact ascii_of_isAlphanum alphanum
  · decide

theorem seen_of_ascii {c : Char} (ascii : c.toNat < 128) : seen c = c := by
  refine if_neg ?_
  omega

private theorem same_iff {p : Char} (ascii : p.toNat < 128) (c : Char) :
    same p c = true ↔ p.toLower = c.toLower := by
  unfold same
  rw [seen_of_ascii ascii, beq_iff_eq]
  by_cases mistaken : c.toNat = 0xFFFE ∨ c.toNat = 0xFFFF
  · have small := ascii_toLower ascii
    have apart : c.toLower = c := by
      obtain low | high := mistaken
      · rw [← Char.ofNat_toNat c, low]
        decide
      · rw [← Char.ofNat_toNat c, high]
        decide
    rw [seen, if_pos mistaken, apart]
    constructor
    · intro same
      rw [same] at small
      exact absurd small (by decide)
    · intro same
      rw [same] at small
      omega
  · rw [seen, if_neg mistaken]

/-- A needle without a NUL is read to its end. -/
theorem like_anywhere_iff_later {needle : List Char} (whole : '\x00' ∉ needle) (text : List Char) :
    like (anywhere needle) text = true ↔ Later (needle ++ ['%']) (upToNul text) := by
  have read : upToNul (anywhere needle) = '%' :: (needle ++ ['%']) := by
    refine List.takeWhile_eq_self_iff.mpr fun c member => ?_
    rw [decide_eq_true_iff]
    rintro rfl
    simp [anywhere, whole] at member
  rw [like_iff, read, matches_many_iff]

section needle
variable {needle : List Char} (admitted : ∀ c ∈ needle, isFilterChar c = true)
include admitted

theorem matches_needle_iff (text : List Char) :
    Matches (needle ++ ['%']) text ↔ needle.map Char.toLower <+: text.map Char.toLower := by
  induction needle generalizing text with
  | nil =>
    simp only [List.nil_append, matches_many_iff, List.map_nil, List.nil_prefix, iff_true]
    exact ⟨[], List.nil_suffix, rfl⟩
  | cons p needle ih =>
    obtain ⟨first, rest⟩ := List.forall_mem_cons.mp admitted
    have plain : p ≠ '%' := ne_of_isFilterChar first (by decide)
    have letter : p ≠ '_' := ne_of_isFilterChar first (by decide)
    rw [List.cons_append]
    cases text with
    | nil => simp [not_matches_nil plain]
    | cons c text =>
      rw [matches_one_iff plain, same_iff (ascii_of_isFilterChar first), ih rest, List.map_cons,
        List.map_cons, List.cons_prefix_cons]
      simp [letter]

private theorem later_needle_iff (text : List Char) :
    Later (needle ++ ['%']) text ↔ Holds needle text := by
  unfold Later Holds
  rw [List.infix_iff_prefix_suffix]
  constructor
  · rintro ⟨rest, suffix, fits⟩
    exact ⟨rest.map Char.toLower, (matches_needle_iff admitted rest).mp fits,
      suffix.map Char.toLower⟩
  · rintro ⟨_, start, suffix⟩
    obtain ⟨rest, ending, rfl⟩ := List.suffix_map_iff.mp suffix
    exact ⟨rest, ending, (matches_needle_iff admitted rest).mpr start⟩

private theorem like_anywhere_iff (text : List Char) :
    like (anywhere needle) text = true ↔ Holds needle (upToNul text) := by
  have whole : '\x00' ∉ needle :=
    fun member => ne_of_isFilterChar (admitted _ member) (by decide) rfl
  rw [like_anywhere_iff_later whole, later_needle_iff admitted]

end needle

private theorem finds_eq (field : SearchField) {needle : String}
    (admitted : ∀ c ∈ needle.toList, isFilterChar c = true) (note : Note) :
    Store.finds field needle note = containsBeforeNul field needle note := by
  have each (text : String) : like (anywhere needle.toList) text.toList =
      decide (Holds needle.toList (upToNul text.toList)) := by
    rw [Bool.eq_iff_iff, like_anywhere_iff admitted, decide_eq_true_iff]
  cases field with
  | title | text | both => simp [Store.finds, containsBeforeNul, searched, each, upToNul]

theorem isTooLong_anywhere {needle : List Char} (short : (Utf8.encode needle).length ≤ 49998) :
    isTooLong (anywhere needle) = false := by
  have bytes : (Utf8.encode (anywhere needle)).length = (Utf8.encode needle).length + 2 := by
    rw [anywhere, List.cons_append, Utf8.encode, List.flatMap_cons, List.flatMap_append,
      List.length_append, List.length_append]
    change 1 + ((Utf8.encode needle).length + 1) = _
    omega
  rw [isTooLong, bytes, largestPattern, decide_eq_false_iff_not]
  omega

private theorem contains_of_beforeNul {field : SearchField} {needle : String} {note : Note}
    (found : containsBeforeNul field needle note = true) : contains field needle note = true := by
  obtain ⟨text, listed, holds⟩ := List.any_eq_true.mp found
  refine List.any_eq_true.mpr ⟨text, listed, ?_⟩
  rw [decide_eq_true_iff] at holds ⊢
  exact holds.trans ((List.takeWhile_prefix _).map Char.toLower).isInfix

section search
variable (store : Store) (field : SearchField) {needle : String}
  (admitted : ∀ c ∈ needle.toList, isFilterChar c = true)
  (short : (Utf8.encode needle.toList).length ≤ 49998)
include admitted short

theorem search_eq_beforeNul :
    store.search field needle = .ok (store.all.filter (containsBeforeNul field needle)) := by
  rw [search_eq store field (isTooLong_anywhere short)]
  refine congrArg Except.ok (List.filter_congr fun note _ => ?_)
  exact finds_eq field admitted note

private theorem search_eq_contains_iff :
    store.search field needle = .ok (store.all.filter (contains field needle)) ↔
      ∀ note ∈ store.all,
        contains field needle note = true → containsBeforeNul field needle note = true := by
  rw [search_eq_beforeNul store field admitted short, Except.ok.injEq]
  constructor
  · intro same note member holds
    have shown : note ∈ store.all.filter (contains field needle) :=
      List.mem_filter.mpr ⟨member, holds⟩
    rw [← same] at shown
    exact (List.mem_filter.mp shown).2
  · intro early
    refine List.filter_congr fun note member => ?_
    rw [Bool.eq_iff_iff]
    exact ⟨contains_of_beforeNul, early note member⟩

/-- A search for a needle lists, in the order of the whole listing, the notes that hold the needle
before the first NUL of a text that is searched. These are all the notes that hold it unless in one
of them it stands after a NUL only. -/
theorem search_lists_before_nul :
    store.search field needle = .ok (store.all.filter (containsBeforeNul field needle)) ∧
    (store.search field needle = .ok (store.all.filter (contains field needle)) ↔
      ∀ note ∈ store.all,
        contains field needle note = true → containsBeforeNul field needle note = true) :=
  ⟨search_eq_beforeNul store field admitted short, search_eq_contains_iff store field admitted short⟩

end search

def nulNotes : Store := ((Store.empty.add 0 "a bCd\x00" "").2.add 0 "\x00bcd" "").2

theorem all_nulNotes :
    nulNotes.all = [⟨2, "\x00bcd", "", 0, 0⟩, ⟨1, "a bCd\x00", "", 0, 0⟩] := by cbv

theorem admits_bcd :
    (∀ c ∈ "bcd".toList, isFilterChar c = true) ∧ (Utf8.encode "bcd".toList).length ≤ 49998 :=
  ⟨List.all_eq_true.mp (by decide), by decide⟩

theorem beforeNul_nulNotes : nulNotes.all.filter (containsBeforeNul .title "bcd") =
    [⟨1, "a bCd\x00", "", 0, 0⟩] := by
  rw [all_nulNotes]
  decide +kernel

theorem search_lists_one_of_two :
    (∀ c ∈ "bcd".toList, isFilterChar c = true) ∧ (Utf8.encode "bcd".toList).length ≤ 49998 ∧
      nulNotes.search .title "bcd" = .ok [⟨1, "a bCd\x00", "", 0, 0⟩] := by
  obtain ⟨admitted, short⟩ := admits_bcd
  refine ⟨admitted, short, ?_⟩
  rw [(search_lists_before_nul nulNotes .title admitted short).1, beforeNul_nulNotes]

/-- A note that holds the needle after a NUL is not found. -/
theorem nul_hides_needle :
    (∀ c ∈ "bcd".toList, isFilterChar c = true) ∧ (Utf8.encode "bcd".toList).length ≤ 49998 ∧
      nulNotes.search .title "bcd" = .ok [⟨1, "a bCd\x00", "", 0, 0⟩] ∧
      nulNotes.all.filter (contains .title "bcd") =
        [⟨2, "\x00bcd", "", 0, 0⟩, ⟨1, "a bCd\x00", "", 0, 0⟩] := by
  obtain ⟨admitted, short⟩ := admits_bcd
  refine ⟨admitted, short, ?_, ?_⟩
  · rw [search_eq_beforeNul nulNotes .title admitted short, beforeNul_nulNotes]
  · rw [all_nulNotes]
    decide +kernel

end NoteBoard.Proofs.NeedleSearch
