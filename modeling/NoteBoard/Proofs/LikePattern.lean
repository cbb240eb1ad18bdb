import Mathlib.Data.List.Infix
import NoteBoard.Note.Like

/-! What a search pattern matches. The matcher gives a search up early where it sees that no later
place can match either; it still finds whatever the pattern allows. -/

namespace NoteBoard.Proofs.LikePattern
open Like

/-- The texts of a pattern: `%` stands for any stretch, `_` for one character and all else for itself
or, if it is an ASCII letter, for the same letter in the other case. -/
def Matches : List Char → List Char → Prop
  | [], text => text = []
  | p :: pattern, text =>
    if p = '%' then ∃ rest, rest <:+ text ∧ Matches pattern rest
    else ∃ c rest, text = c :: rest ∧ (p = '_' ∨ same p c = true) ∧ Matches pattern rest

/-- The pattern matches the text from some place on. -/
def Later (pattern text : List Char) : Prop := ∃ rest, rest <:+ text ∧ Matches pattern rest

theorem matches_many_iff (pattern text : List Char) :
    Matches ('%' :: pattern) text ↔ Later pattern text := by
  rw [Matches, if_pos rfl]
  rfl

theorem matches_one_iff {p : Char} (plain : p ≠ '%') (pattern : List Char) (c : Char)
    (text : List Char) :
    Matches (p :: pattern) (c :: text) ↔ (p = '_' ∨ same p c = true) ∧ Matches pattern text := by
  rw [Matches, if_neg plain]
  simp

theorem not_matches_nil {p : Char} (plain : p ≠ '%') (pattern : List Char) :
    ¬ Matches (p :: pattern) [] := by
  rw [Matches, if_neg plain]
  simp

theorem later_many_iff (pattern text : List Char) :
    Later ('%' :: pattern) text ↔ Later pattern text := by
  constructor
  · rintro ⟨rest, suffix, fits⟩
    obtain ⟨last, inner, fits⟩ := (matches_many_iff pattern rest).mp fits
    exact ⟨last, inner.trans suffix, fits⟩
  · rintro ⟨rest, suffix, fits⟩
    exact ⟨rest, suffix, (matches_many_iff pattern rest).mpr ⟨rest, List.suffix_refl _, fits⟩⟩

theorem later_one_iff {p : Char} (plain : p ≠ '%') (pattern text : List Char) :
    Later (p :: pattern) text ↔
      ∃ c rest, c :: rest <:+ text ∧ (p = '_' ∨ same p c = true) ∧ Matches pattern rest := by
  constructor
  · rintro ⟨rest, suffix, fits⟩
    cases rest with
    | nil => exact absurd fits (not_matches_nil plain pattern)
    | cons c rest => exact ⟨c, rest, suffix, (matches_one_iff plain ..).mp fits⟩
  · rintro ⟨c, rest, suffix, fits⟩
    exact ⟨c :: rest, suffix, (matches_one_iff plain ..).mpr fits⟩

private theorem tail_suffix {c d : Char} {rest after : List Char}
    (suffix : d :: after <:+ c :: rest) :
    after <:+ rest := by
  rcases List.suffix_cons_iff.mp suffix with equal | later
  · exact (List.cons.inj equal).2 ▸ List.suffix_refl _
  · exact (List.suffix_cons d after).trans later

private theorem exists_before_suffix (c : Char) {rest after : List Char} (suffix : after <:+ rest) :
    ∃ d, d :: after <:+ c :: rest := by
  obtain ⟨before, rfl⟩ := suffix
  obtain ⟨front, last, split⟩ := (List.eq_nil_or_concat (c :: before)).resolve_left (by simp)
  refine ⟨last, front, ?_⟩
  rw [← List.cons_append, split]
  simp

theorem not_later_nil {p : Char} (plain : p ≠ '%') (pattern : List Char) :
    ¬ Later (p :: pattern) [] := by
  rintro ⟨rest, suffix, fits⟩
  rw [List.suffix_nil.mp suffix] at fits
  exact not_matches_nil plain pattern fits

theorem not_later_cons {p : Char} (plain : p ≠ '%') {pattern text : List Char} (c : Char)
    (nowhere : ¬ Later pattern text) : ¬ Later (p :: pattern) (c :: text) := by
  rw [later_one_iff plain]
  rintro ⟨d, rest, suffix, _, fits⟩
  exact nowhere ⟨rest, tail_suffix suffix, fits⟩

theorem later_wild_iff (pattern : List Char) (c : Char) (text : List Char) :
    Later ('_' :: pattern) (c :: text) ↔ Later pattern text := by
  constructor
  · intro later
    by_contra nowhere
    exact not_later_cons (by decide) c nowhere later
  · rintro ⟨rest, suffix, fits⟩
    obtain ⟨d, longer⟩ := exists_before_suffix c suffix
    exact (later_one_iff (by decide) ..).mpr ⟨d, rest, longer, Or.inl rfl, fits⟩

/-- A search stops at the first verdict that is not a mismatch. If verdicts that give up are right,
it finds the character wherever the rest is found after it. -/
private theorem search_found_iff {isStart : Char → Bool} {next : List Char → Verdict}
    (rightly : ∀ rest after, next rest = .hopeless → after <:+ rest → next after ≠ .found)
    (text : List Char) : search isStart next text = .found ↔
      ∃ c rest, c :: rest <:+ text ∧ isStart c = true ∧ next rest = .found := by
  induction text with
  | nil => simp [search]
  | cons c text ih =>
    have split : (∃ d rest, d :: rest <:+ c :: text ∧ isStart d = true ∧ next rest = .found) ↔
        isStart c = true ∧ next text = .found ∨
          ∃ d rest, d :: rest <:+ text ∧ isStart d = true ∧ next rest = .found := by
      constructor
      · rintro ⟨d, rest, suffix, found⟩
        rcases List.suffix_cons_iff.mp suffix with equal | later
        · cases equal
          exact Or.inl found
        · exact Or.inr ⟨d, rest, later, found⟩
      · rintro (found | ⟨d, rest, suffix, found⟩)
        · exact ⟨c, text, List.suffix_refl _, found⟩
        · exact ⟨d, rest, suffix.trans (List.suffix_cons c text), found⟩
    rw [split]
    unfold search
    rw [← ih]
    split
    next starts =>
      cases verdict : next text with
      | found => simp [starts]
      | mismatch => simp
      | hopeless =>
        simp only [reduceCtorEq, and_false, false_or, false_iff]
        rw [ih]
        rintro ⟨d, rest, suffix, _, found⟩
        exact rightly text rest verdict ((List.suffix_cons d rest).trans suffix) found
    next other => simp [other]

/-- What a verdict on a pattern says: whether it matches here, or anywhere if a `%` went before it,
and that it matches nowhere from here on if the search is given up. -/
structure Decides (pattern : List Char) (starred : Bool) (text : List Char) (verdict : Verdict) :
    Prop where
  found : verdict = .found ↔ if starred then Later pattern text else Matches pattern text
  hopeless : verdict = .hopeless → ¬ Later pattern text

theorem decides_of_not_later {pattern text : List Char} {starred : Bool} {verdict : Verdict}
    (nowhere : ¬ Later pattern text) (missed : verdict ≠ .found) :
    Decides pattern starred text verdict := by
  refine ⟨?_, fun _ => nowhere⟩
  have here : ¬ Matches pattern text := fun fits => nowhere ⟨text, List.suffix_refl _, fits⟩
  cases starred <;> simp [missed, nowhere, here]

section cons
variable {pattern : List Char} (rest : ∀ starred text,
  Decides pattern starred text (matchFrom pattern starred text))
include rest

private theorem many_decides (starred : Bool) (text : List Char) :
    Decides ('%' :: pattern) starred text (matchFrom pattern true text) := by
  constructor
  · rw [(rest true text).found, later_many_iff, matches_many_iff]
    simp
  · rw [later_many_iff]
    exact (rest true text).hopeless

private theorem wild_decides (starred : Bool) (c : Char) (text : List Char) :
    Decides ('_' :: pattern) starred (c :: text) (matchFrom pattern starred text) := by
  constructor
  · rw [(rest starred text).found, later_wild_iff, matches_one_iff (by decide)]
    simp
  · rw [later_wild_iff]
    exact (rest starred text).hopeless

variable {p : Char} (plain : p ≠ '%') (letter : p ≠ '_')
include plain letter

private theorem letter_decides (c : Char) (text : List Char) :
    Decides (p :: pattern) false (c :: text)
      (if same p c then matchFrom pattern false text else .mismatch) := by
  have here := rest false text
  constructor
  · simp only [Bool.false_eq_true, if_false, matches_one_iff plain]
    split
    next fits =>
      rw [here.found]
      simp [fits]
    next differs => simp [letter, differs]
  · intro given
    split at given
    next => exact not_later_cons plain c (here.hopeless given)
    next => cases given

private theorem search_decides (text : List Char) :
    Decides (p :: pattern) true text (search (same p) (matchFrom pattern false) text) := by
  have rightly (front after : List Char) (given : matchFrom pattern false front = .hopeless)
      (suffix : after <:+ front) : matchFrom pattern false after ≠ .found := by
    intro found
    exact (rest false front).hopeless given ⟨after, suffix, (rest false after).found.mp found⟩
  have found : search (same p) (matchFrom pattern false) text = .found ↔
      Later (p :: pattern) text := by
    rw [search_found_iff rightly, later_one_iff plain]
    simp [letter, (rest false _).found]
  refine ⟨found, ?_⟩
  rw [← found]
  intro given impossible
  rw [given] at impossible
  cases impossible

end cons

private theorem matchFrom_decides (pattern : List Char) (starred : Bool) (text : List Char) :
    Decides pattern starred text (matchFrom pattern starred text) := by
  induction pattern generalizing starred text with
  | nil =>
    have ending : Later [] text := ⟨[], List.nil_suffix, rfl⟩
    unfold matchFrom
    constructor
    · cases starred <;> simp [ending, Matches]
    · split <;> simp
  | cons p pattern rest =>
    unfold matchFrom
    by_cases many : p = '%'
    · rw [if_pos many, many]
      exact many_decides rest starred text
    rw [if_neg many]
    by_cases wild : p = '_'
    · rw [if_pos wild, wild]
      cases text with
      | nil =>
        refine decides_of_not_later (not_later_nil (by decide) pattern) ?_
        cases starred <;> simp
      | cons c text => exact wild_decides rest starred c text
    rw [if_neg wild]
    cases starred with
    | true => exact search_decides rest many wild text
    | false =>
      cases text with
      | nil => exact decides_of_not_later (not_later_nil many pattern) (by simp)
      | cons c text => exact letter_decides rest many wild c text

/-- The matcher finds just what the pattern allows, each taken up to its first NUL. -/
theorem like_iff (pattern text : List Char) :
    like pattern text = true ↔ Matches (upToNul pattern) (upToNul text) := by
  rw [like, decide_eq_true_iff, (matchFrom_decides _ false _).found]
  simp

end NoteBoard.Proofs.LikePattern
