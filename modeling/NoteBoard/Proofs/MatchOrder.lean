import Mathlib.Data.List.Basic
import NoteBoard.Proofs.RegexMatches

/-! The order in which a search tries the ways of a pattern. All the places that the pattern leads
to stand in one list, the preferred one first, and the search goes through it until the rest
succeeds. A match by itself is therefore the head of the list. -/

namespace NoteBoard.Proofs.MatchOrder
open RegexMatches

/-- The places after rounds that each get ahead, those after more rounds first. -/
def rounds (body : Cursor → List Cursor) : Nat → Cursor → List Cursor
  | 0, place => [place]
  | limit + 1, place =>
    ((body place).filter (place.index < ·.index)).flatMap (rounds body limit) ++ [place]

/-- The places that a pattern leads to, the preferred ones first. -/
def endings : Regex → Cursor → List Cursor
  | .empty, place => [place]
  | .one allowed, place => (place.one? allowed).toList
  | .many allowed, place => place.runs allowed
  | .seq head tail, place => (endings head place).flatMap (endings tail)
  | .alt preferred other, place => endings preferred place ++ endings other place
  | .star body, place => rounds (endings body) place.rest.length place
  | .edge, place => if place.atEdge then [place] else []

section search
variable {α : Type}

theorem findSome?_flatMap {next : Cursor → List Cursor} (done : Cursor → Option α)
    (places : List Cursor) :
    (places.flatMap next).findSome? done =
      places.findSome? fun place => (next place).findSome? done := by
  induction places with
  | nil => rfl
  | cons place places ih =>
    rw [List.flatMap_cons, List.findSome?_append, ih, List.findSome?_cons]
    cases (next place).findSome? done <;> rfl

private theorem findSome?_filter {kept : Cursor → Bool} (done : Cursor → Option α)
    (places : List Cursor) :
    (places.filter kept).findSome? done =
      places.findSome? fun place => if kept place then done place else none := by
  induction places with
  | nil => rfl
  | cons place places ih =>
    rw [List.filter_cons, List.findSome?_cons, ← ih]
    cases kept place <;> rfl

private theorem repeatFirst_eq {round : Cursor → (Cursor → Option α) → Option α}
    {body : Cursor → List Cursor}
    (tried : ∀ place next, round place next = (body place).findSome? next)
    (done : Cursor → Option α) (limit : Nat) (place : Cursor) :
    Regex.repeatFirst round done limit place = (rounds body limit place).findSome? done := by
  induction limit generalizing place with
  | zero =>
    unfold Regex.repeatFirst rounds
    rw [List.findSome?_singleton]
  | succ limit ih =>
    unfold Regex.repeatFirst rounds
    rw [tried, List.findSome?_append, findSome?_flatMap, findSome?_filter, List.findSome?_singleton]
    simp only [ih, decide_eq_true_eq]
    cases (body place).findSome? _ <;> rfl

private theorem first?_eq (pattern : Regex) (place : Cursor) (done : Cursor → Option α) :
    pattern.first? place done = (endings pattern place).findSome? done := by
  induction pattern generalizing place done with
  | empty =>
    unfold Regex.first? endings
    rw [List.findSome?_singleton]
  | one allowed =>
    unfold Regex.first? endings
    cases place.one? allowed with
    | none => rfl
    | some next => rw [Option.toList_some, List.findSome?_singleton, Option.bind_some]
  | many allowed => rfl
  | seq head tail first second =>
    unfold Regex.first? endings
    rw [first, findSome?_flatMap]
    simp only [second]
  | alt preferred other left right =>
    unfold Regex.first? endings
    rw [left, right, List.findSome?_append]
    cases (endings preferred place).findSome? done <;> rfl
  | star body ih => exact repeatFirst_eq (fun place next => ih place next) done _ place
  | edge =>
    unfold Regex.first? endings
    split
    · rw [List.findSome?_singleton]
    · rfl

end search

theorem end?_eq_head? (pattern : Regex) (place : Cursor) :
    pattern.end? place = (endings pattern place).head? := by
  unfold Regex.end?
  rw [first?_eq]
  cases endings pattern place <;> rfl

private theorem runsFrom_passed (allowed : Char → Bool) (index : Nat) (before : Option Char)
    (passed : List Cursor) (rest : List Char) :
    Cursor.runsFrom allowed index before passed rest =
      Cursor.runsFrom allowed index before [] rest ++ passed := by
  induction rest generalizing index before passed with
  | nil => rfl
  | cons c rest ih =>
    unfold Cursor.runsFrom
    dsimp only
    split
    · rw [ih, ih _ _ [_], List.append_assoc]
      rfl
    · rfl

private theorem endings_many_nil (allowed : Char → Bool) (index : Nat) (before : Option Char) :
    endings (.many allowed) ⟨index, before, []⟩ = [⟨index, before, []⟩] := rfl

theorem endings_many_cons (allowed : Char → Bool) (index : Nat) (before : Option Char) (c : Char)
    (rest : List Char) :
    endings (.many allowed) ⟨index, before, c :: rest⟩ =
      (if allowed c then endings (.many allowed) ⟨index + 1, some c, rest⟩ else []) ++
        [⟨index, before, c :: rest⟩] := by
  have step : endings (.many allowed) ⟨index, before, c :: rest⟩ =
      if allowed c then
        Cursor.runsFrom allowed (index + 1) (some c) [⟨index, before, c :: rest⟩] rest
      else [⟨index, before, c :: rest⟩] := rfl
  rw [step]
  split
  · exact runsFrom_passed ..
  · rfl

private theorem endings_one_nil (allowed : Char → Bool) (index : Nat) (before : Option Char) :
    endings (.one allowed) ⟨index, before, []⟩ = [] := rfl

theorem endings_one_cons (allowed : Char → Bool) (index : Nat) (before : Option Char) (c : Char)
    (rest : List Char) :
    endings (.one allowed) ⟨index, before, c :: rest⟩ =
      if allowed c then [⟨index + 1, some c, rest⟩] else [] := by
  unfold endings Cursor.one?
  dsimp only
  split <;> rfl

private theorem mem_many_iff {allowed : Char → Bool} {index : Nat} {before : Option Char}
    {rest : List Char} {ending : Cursor} :
    ending ∈ endings (.many allowed) ⟨index, before, rest⟩ ↔
      Reaches (.many allowed) ⟨index, before, rest⟩ ending := by
  induction rest generalizing index before with
  | nil =>
    rw [endings_many_nil, List.mem_singleton]
    constructor
    · rintro rfl
      exact .manyStop _
    · intro reaches
      cases reaches
      rfl
  | cons c rest ih =>
    rw [endings_many_cons, List.mem_append, List.mem_singleton]
    constructor
    · rintro (later | rfl)
      · split at later
        next fits => exact .manyMore fits (ih.mp later)
        next => cases later
      · exact .manyStop _
    · intro reaches
      cases reaches with
      | manyStop => exact Or.inr rfl
      | manyMore fits later =>
        rw [if_pos fits]
        exact Or.inl (ih.mpr later)

theorem shorter_of_reaches {pattern : Regex} {place ending : Cursor}
    (reaches : Reaches pattern place ending) (ahead : place.index < ending.index) :
    ending.rest.length < place.rest.length := by
  obtain ⟨text, written, index⟩ := reaches.passes
  rw [written, List.length_append]
  omega

section star
variable {body : Regex}
  (listed : ∀ place ending, ending ∈ endings body place ↔ Reaches body place ending)
include listed

private theorem reaches_of_mem_rounds {limit : Nat} {place ending : Cursor}
    (member : ending ∈ rounds (endings body) limit place) : Reaches (.star body) place ending := by
  induction limit generalizing place with
  | zero =>
    rw [List.mem_singleton.mp member]
    exact .starStop place
  | succ limit ih =>
    rcases List.mem_append.mp member with later | stop
    · obtain ⟨middle, round, later⟩ := List.mem_flatMap.mp later
      obtain ⟨round, ahead⟩ := List.mem_filter.mp round
      exact .starMore ((listed ..).mp round) (of_decide_eq_true ahead) (ih later)
    · rw [List.mem_singleton.mp stop]
      exact .starStop place

private theorem mem_rounds_of_reaches {limit : Nat} {place ending : Cursor}
    (reaches : Reaches (.star body) place ending) (enough : place.rest.length ≤ limit) :
    ending ∈ rounds (endings body) limit place := by
  induction limit generalizing place with
  | zero =>
    cases reaches with
    | starStop => exact List.mem_singleton.mpr rfl
    | starMore round ahead later =>
      have shorter := shorter_of_reaches round ahead
      omega
  | succ limit ih =>
    refine List.mem_append.mpr ?_
    cases reaches with
    | starStop => exact Or.inr (List.mem_singleton.mpr rfl)
    | starMore round ahead later =>
      have shorter := shorter_of_reaches round ahead
      refine Or.inl (List.mem_flatMap.mpr ⟨_, ?_, ih later (by omega)⟩)
      exact List.mem_filter.mpr ⟨(listed ..).mpr round, decide_eq_true ahead⟩

/-- One round more changes nothing where the limit is as long as the text. -/
theorem rounds_succ {limit : Nat} {place : Cursor} (enough : place.rest.length ≤ limit) :
    rounds (endings body) (limit + 1) place = rounds (endings body) limit place := by
  have spent {place next : Cursor}
      (round : next ∈ (endings body place).filter (place.index < ·.index)) :
      next.rest.length < place.rest.length := by
    obtain ⟨reached, ahead⟩ := List.mem_filter.mp round
    exact shorter_of_reaches ((listed ..).mp reached) (of_decide_eq_true ahead)
  induction limit generalizing place with
  | zero =>
    have none : (endings body place).filter (place.index < ·.index) = [] := by
      refine List.eq_nil_iff_forall_not_mem.mpr fun next round => ?_
      have shorter := spent round
      omega
    unfold rounds
    rw [none]
    rfl
  | succ limit ih =>
    unfold rounds
    refine congrArg (· ++ [place]) (List.flatMap_congr fun next round => ih ?_)
    have shorter := spent round
    omega

theorem rounds_limit (place : Cursor) (more : Nat) :
    rounds (endings body) (place.rest.length + more) place =
      rounds (endings body) place.rest.length place := by
  induction more with
  | zero => rfl
  | succ more ih => rw [← Nat.add_assoc, rounds_succ listed (Nat.le_add_right ..), ih]

end star

/-- The list holds the places that the pattern leads to and no others. -/
theorem mem_endings_iff (pattern : Regex) (place ending : Cursor) :
    ending ∈ endings pattern place ↔ Reaches pattern place ending := by
  induction pattern generalizing place ending with
  | empty =>
    unfold endings
    rw [List.mem_singleton]
    constructor
    · rintro rfl
      exact .empty _
    · intro reaches
      cases reaches
      rfl
  | one allowed =>
    obtain ⟨index, before, _ | ⟨c, rest⟩⟩ := place
    · rw [endings_one_nil]
      exact iff_of_false List.not_mem_nil fun reaches => nomatch reaches
    · rw [endings_one_cons]
      constructor
      · intro member
        split at member
        next fits =>
          rw [List.mem_singleton.mp member]
          exact .one fits
        next => cases member
      · intro reaches
        cases reaches with
        | one fits =>
          rw [if_pos fits]
          exact List.mem_singleton.mpr rfl
  | many allowed => exact mem_many_iff
  | seq head tail first second =>
    unfold endings
    rw [List.mem_flatMap]
    constructor
    · rintro ⟨middle, before, after⟩
      exact .seq ((first ..).mp before) ((second ..).mp after)
    · intro reaches
      cases reaches with
      | seq before after => exact ⟨_, (first ..).mpr before, (second ..).mpr after⟩
  | alt preferred other left right =>
    unfold endings
    rw [List.mem_append, left, right]
    constructor
    · rintro (taken | taken)
      · exact .preferred taken
      · exact .other taken
    · intro reaches
      cases reaches with
      | preferred taken => exact Or.inl taken
      | other taken => exact Or.inr taken
  | star body ih =>
    refine ⟨reaches_of_mem_rounds ih, fun reaches => ?_⟩
    exact mem_rounds_of_reaches ih reaches (Nat.le_refl _)
  | edge =>
    unfold endings
    constructor
    · intro member
      split at member
      next onEdge =>
        rw [List.mem_singleton.mp member]
        exact .edge onEdge
      next => cases member
    · intro reaches
      cases reaches with
      | edge onEdge =>
        rw [if_pos onEdge]
        exact List.mem_singleton.mpr rfl

theorem endings_star (body : Regex) (place : Cursor) :
    endings (.star body) place =
      ((endings body place).filter (place.index < ·.index)).flatMap (endings (.star body)) ++
        [place] := by
  have listed := mem_endings_iff body
  have all : endings (.star body) place = rounds (endings body) (place.rest.length + 1) place :=
    (rounds_succ listed (Nat.le_refl _)).symm
  rw [all]
  refine congrArg (· ++ [place]) (List.flatMap_congr fun next round => ?_)
  obtain ⟨reached, ahead⟩ := List.mem_filter.mp round
  have shorter := shorter_of_reaches ((listed ..).mp reached) (of_decide_eq_true ahead)
  obtain ⟨spare, size⟩ := Nat.exists_eq_add_of_le (Nat.le_of_lt shorter)
  rw [size]
  exact rounds_limit listed next spare

section spans
variable {pattern : Regex} {index : Nat} {before : Option Char} {c : Char} {rest : List Char}

theorem spansFrom_pass (missed : ∀ ending, pattern.end? ⟨index, before, c :: rest⟩ = some ending →
      ending.index - index = 0) :
    pattern.spansFrom index before 0 (c :: rest) =
      pattern.spansFrom (index + 1) (some c) 0 rest := by
  rw [Regex.spansFrom]
  split
  next ending found => exact if_pos (missed ending found)
  next => rfl

theorem spansFrom_hit {ending : Cursor}
    (found : pattern.end? ⟨index, before, c :: rest⟩ = some ending)
    (longer : ending.index - index ≠ 0) :
    pattern.spansFrom index before 0 (c :: rest) =
      ⟨index, ending.index, (c :: rest).take (ending.index - index)⟩ ::
        pattern.spansFrom (index + 1) (some c) (ending.index - index - 1) rest := by
  rw [Regex.spansFrom, found]
  exact if_neg longer

theorem end?_within {place ending : Cursor} (found : pattern.end? place = some ending) :
    ending.index - place.index ≤ place.rest.length := by
  obtain ⟨text, written, index⟩ := (end?_sound found).passes
  rw [written, List.length_append]
  omega

/-- What the last match covers has no other match in it. -/
theorem spansFrom_covered (pattern : Regex) (index : Nat) (before : Option Char)
    (rest : List Char) : pattern.spansFrom index before rest.length rest = [] := by
  induction rest generalizing index before with
  | nil => rfl
  | cons c rest ih => exact ih (index + 1) (some c)

end spans

end NoteBoard.Proofs.MatchOrder
