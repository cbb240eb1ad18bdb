import NoteBoard.Proofs.MatchOrder
import NoteBoard.Proofs.MatchTexts

/-! Which way of a pattern comes first. Where there is only one way to go on, it does; a run of one
class goes as far as it can, and so do rounds. What is tried before the way that succeeds has to
fail, and it is enough to know what its matches would look like. -/

namespace NoteBoard.Proofs.MatchPreference
open MatchOrder MatchTexts RegexMatches

/-- The place is the first one that is tried of those that the pattern leads to. -/
def Prefers (pattern : Regex) (place ending : Cursor) : Prop :=
  (endings pattern place).head? = some ending

def Fails (pattern : Regex) (place : Cursor) : Prop := ∀ ending, ¬ Reaches pattern place ending

/-- The first way takes all that is left of the text. -/
def Finishes (pattern : Regex) (place : Cursor) : Prop :=
  ∃ ending, Prefers pattern place ending ∧ ending.rest = []

theorem endings_of_fails {pattern : Regex} {place : Cursor} (fails : Fails pattern place) :
    endings pattern place = [] :=
  List.eq_nil_iff_forall_not_mem.mpr fun ending member =>
    fails ending ((mem_endings_iff ..).mp member)

theorem last_of_reaches {pattern : Regex} {place ending : Cursor}
    (reaches : Reaches pattern place ending) :
    ∃ text, Passes place text ending ∧ ending.before = text.getLast?.or place.before := by
  induction reaches with
  | empty place | manyStop place | starStop place => exact ⟨[], .refl place, rfl⟩
  | edge => exact ⟨[], .refl _, rfl⟩
  | one => exact ⟨[_], .char .., rfl⟩
  | @manyMore _ _ _ c _ _ fits later ih =>
    obtain ⟨text, passes, last⟩ := ih
    refine ⟨c :: text, (Passes.char ..).trans passes, ?_⟩
    rw [last, List.getLast?_cons]
    cases text.getLast? <;> rfl
  | preferred taken ih | other taken ih => exact ih
  | seq first second before after | starMore first ahead second before after =>
    obtain ⟨text, passes, last⟩ := before
    obtain ⟨more, further, final⟩ := after
    refine ⟨text ++ more, passes.trans further, ?_⟩
    rw [final, last, List.getLast?_append, Option.or_assoc]

theorem last_of_yields {property : List Char → Prop} {pattern : Regex} {place ending : Cursor}
    (yields : Yields property pattern) (reaches : Reaches pattern place ending) :
    ∃ text, place.rest = text ++ ending.rest ∧ property text ∧
      ending.before = text.getLast?.or place.before := by
  obtain ⟨text, ⟨written, _⟩, holds⟩ := yields _ _ reaches
  obtain ⟨same, ⟨again, _⟩, last⟩ := last_of_reaches reaches
  obtain rfl := List.append_cancel_right (written.symm.trans again)
  exact ⟨text, written, holds, last⟩

theorem eq_of_reaches {first second : Regex} {place ending other : Cursor}
    (one : Reaches first place ending) (two : Reaches second place other)
    (left : ending.rest.length = other.rest.length) : ending = other := by
  obtain ⟨text, ⟨written, index⟩, last⟩ := last_of_reaches one
  obtain ⟨same, ⟨written', index'⟩, last'⟩ := last_of_reaches two
  obtain ⟨rfl, rest⟩ := List.append_inj' (written.symm.trans written') left
  obtain ⟨_, _, _⟩ := ending
  obtain ⟨_, _, _⟩ := other
  simp_all

theorem findSome?_eq_some_of_only {places : List Cursor} {found : Cursor → Option Cursor}
    {place ending : Cursor} (member : place ∈ places) (here : found place = some ending)
    (only : ∀ other ∈ places, other = place ∨ found other = none) :
    places.findSome? found = some ending := by
  cases result : places.findSome? found with
  | none =>
    rw [List.findSome?_eq_none_iff.mp result place member] at here
    cases here
  | some other =>
    obtain ⟨middle, listed, taken⟩ := List.exists_of_findSome?_eq_some result
    rcases only middle listed with rfl | missed
    · exact taken.symm.trans here
    · rw [missed] at taken
      cases taken

theorem sized_one {allowed : Char → Bool} : Yields (·.length = 1) (.one allowed) :=
  yields_one fun _ _ => rfl

theorem sized_char (c : Char) : Yields (·.length = 1) (Regex.char c) := sized_one

theorem sized_edge : Yields (·.length = 0) .edge := yields_edge rfl

section ways
variable {pattern first second body : Regex} {place middle ending : Cursor}

theorem Prefers.reaches (prefers : Prefers pattern place ending) : Reaches pattern place ending :=
  (mem_endings_iff ..).mp (List.mem_of_head? prefers)

theorem prefers_only (reaches : Reaches pattern place ending)
    (only : ∀ other, Reaches pattern place other → other = ending) :
    Prefers pattern place ending := by
  have member := (mem_endings_iff ..).mpr reaches
  cases found : (endings pattern place).head? with
  | none =>
    rw [List.head?_eq_none_iff.mp found] at member
    cases member
  | some other =>
    rw [Prefers, found, only other (Prefers.reaches found)]

theorem prefers_sized {size : Nat} (sized : Yields (·.length = size) pattern)
    (reaches : Reaches pattern place ending) : Prefers pattern place ending := by
  refine prefers_only reaches fun other also => eq_of_reaches also reaches ?_
  obtain ⟨text, ⟨written, _⟩, length⟩ := sized _ _ reaches
  obtain ⟨same, ⟨written', _⟩, length'⟩ := sized _ _ also
  have whole := congrArg List.length (written.symm.trans written')
  rw [List.length_append, List.length_append] at whole
  omega

theorem exists_middle (reaches : Reaches (.seq first second) place ending) :
    ∃ middle, Reaches first place middle ∧ Reaches second middle ending := by
  cases reaches with
  | seq before after => exact ⟨_, before, after⟩

theorem Prefers.seq (before : Prefers first place middle) (after : Prefers second middle ending) :
    Prefers (.seq first second) place ending := by
  obtain ⟨others, listed⟩ := List.head?_eq_some_iff.mp before
  unfold Prefers endings
  rw [List.head?_flatMap, listed, List.findSome?_cons, after]

/-- What follows may have to decide where the first part ends. -/
theorem prefers_seq_only (before : Reaches first place middle)
    (only : ∀ other, Reaches first place other → other = middle ∨ Fails second other)
    (after : Prefers second middle ending) : Prefers (.seq first second) place ending := by
  unfold Prefers endings
  rw [List.head?_flatMap]
  refine findSome?_eq_some_of_only ((mem_endings_iff ..).mpr before) after fun other member => ?_
  refine (only other ((mem_endings_iff ..).mp member)).imp_right fun fails => ?_
  rw [endings_of_fails fails, List.head?_nil]

theorem Prefers.left (taken : Prefers first place ending) :
    Prefers (.alt first second) place ending := by
  unfold Prefers endings
  rw [List.head?_append, taken, Option.some_or]

theorem Prefers.right (taken : Prefers second place ending) (fails : Fails first place) :
    Prefers (.alt first second) place ending := by
  unfold Prefers endings
  rw [endings_of_fails fails]
  exact taken

theorem Finishes.left (taken : Finishes first place) : Finishes (.alt first second) place := by
  obtain ⟨ending, prefers, done⟩ := taken
  exact ⟨ending, prefers.left, done⟩

theorem Finishes.right (taken : Finishes second place) (fails : Fails first place) :
    Finishes (.alt first second) place := by
  obtain ⟨ending, prefers, done⟩ := taken
  exact ⟨ending, Prefers.right prefers fails, done⟩

theorem prefers_empty (place : Cursor) : Prefers .empty place place := rfl

theorem fails_one {allowed : Char → Bool}
    (stops : ∀ c, place.rest.head? = some c → allowed c = false) :
    Fails (.seq (.one allowed) second) place := by
  intro ending reaches
  obtain ⟨middle, first, _⟩ := exists_middle reaches
  cases first with
  | one fits =>
    rw [stops _ rfl] at fits
    cases fits

/-- A run that cannot go on is the longest. -/
theorem prefers_many {allowed : Char → Bool} (reaches : Reaches (.many allowed) place ending)
    (stops : ∀ c, ending.rest.head? = some c → allowed c = false) :
    Prefers (.many allowed) place ending := by
  generalize same : Regex.many allowed = run at reaches
  induction reaches with
  | manyStop place =>
    cases same
    obtain ⟨index, before, _ | ⟨c, rest⟩⟩ := place
    · rfl
    · unfold Prefers
      rw [endings_many_cons, stops c rfl]
      rfl
  | manyMore fits later ih =>
    cases same
    unfold Prefers
    rw [endings_many_cons, if_pos fits, List.head?_append, ih stops rfl, Option.some_or]
  | _ => cases same

theorem prefers_upTo {allowed : Char → Bool} {count : Nat}
    (reaches : Reaches (Regex.upTo allowed count) place ending)
    (stops : ∀ c, ending.rest.head? = some c → allowed c = false) :
    Prefers (Regex.upTo allowed count) place ending := by
  induction count generalizing place with
  | zero =>
    cases reaches
    rfl
  | succ count ih =>
    cases reaches with
    | preferred taken =>
      obtain ⟨middle, first, more⟩ := exists_middle taken
      exact (Prefers.seq (prefers_sized sized_one first) (ih more)).left
    | other nothing =>
      cases nothing
      exact Prefers.right (prefers_empty _) (fails_one stops)

theorem prefers_star (only : ∀ place ending other, Reaches body place ending →
      Reaches body place other → other = ending)
    (reaches : Reaches (.star body) place ending) (stuck : Fails body ending) :
    Prefers (.star body) place ending := by
  generalize same : Regex.star body = pattern at reaches
  induction reaches with
  | starStop place =>
    cases same
    unfold Prefers
    rw [endings_star, endings_of_fails stuck]
    rfl
  | @starMore _ place middle ending round ahead later _ ih =>
    cases same
    unfold Prefers
    rw [endings_star, List.head?_append, List.head?_flatMap]
    have member : middle ∈ (endings body place).filter (place.index < ·.index) :=
      List.mem_filter.mpr ⟨(mem_endings_iff ..).mpr round, decide_eq_true ahead⟩
    have further : (endings (.star body) middle).head? = some ending := ih stuck rfl
    rw [findSome?_eq_some_of_only member further fun other listed => ?_, Option.some_or]
    exact Or.inl (only _ _ _ round ((mem_endings_iff ..).mp (List.mem_filter.mp listed).1))
  | _ => cases same

end ways

end NoteBoard.Proofs.MatchPreference
