import NoteBoard.Regex.Basic

/-! Matches as paths between places. Whatever way of matching the search ends on is one that the
pattern allows, so what holds of all paths of a pattern holds of all its matches in a text. -/

namespace NoteBoard.Proofs.RegexMatches

/-- The ways of a pattern from one place to another, preferences aside. -/
inductive Reaches : Regex → Cursor → Cursor → Prop where
  | empty (place : Cursor) : Reaches .empty place place
  | one {allowed : Char → Bool} {index : Nat} {before : Option Char} {c : Char}
      {rest : List Char} (fits : allowed c = true) :
      Reaches (.one allowed) ⟨index, before, c :: rest⟩ ⟨index + 1, some c, rest⟩
  | manyStop {allowed : Char → Bool} (place : Cursor) : Reaches (.many allowed) place place
  | manyMore {allowed : Char → Bool} {index : Nat} {before : Option Char} {c : Char}
      {rest : List Char} {ending : Cursor} (fits : allowed c = true)
      (later : Reaches (.many allowed) ⟨index + 1, some c, rest⟩ ending) :
      Reaches (.many allowed) ⟨index, before, c :: rest⟩ ending
  | seq {head tail : Regex} {place middle ending : Cursor} (first : Reaches head place middle)
      (second : Reaches tail middle ending) : Reaches (.seq head tail) place ending
  | preferred {left right : Regex} {place ending : Cursor} (taken : Reaches left place ending) :
      Reaches (.alt left right) place ending
  | other {left right : Regex} {place ending : Cursor} (taken : Reaches right place ending) :
      Reaches (.alt left right) place ending
  | starStop {body : Regex} (place : Cursor) : Reaches (.star body) place place
  | starMore {body : Regex} {place middle ending : Cursor} (round : Reaches body place middle)
      (ahead : place.index < middle.index) (later : Reaches (.star body) middle ending) :
      Reaches (.star body) place ending
  | edge {place : Cursor} (onEdge : place.atEdge = true) : Reaches .edge place place

structure Passes (place : Cursor) (text : List Char) (ending : Cursor) : Prop where
  written : place.rest = text ++ ending.rest
  index : ending.index = place.index + text.length

theorem Passes.refl (place : Cursor) : Passes place [] place := ⟨rfl, rfl⟩

theorem Passes.char (index : Nat) (before : Option Char) (c : Char) (rest : List Char) :
    Passes ⟨index, before, c :: rest⟩ [c] ⟨index + 1, some c, rest⟩ := ⟨rfl, rfl⟩

theorem Passes.trans {place middle ending : Cursor} {first second : List Char}
    (left : Passes place first middle) (right : Passes middle second ending) :
    Passes place (first ++ second) ending := by
  refine ⟨?_, ?_⟩
  · rw [left.written, right.written, List.append_assoc]
  · rw [right.index, left.index, List.length_append, Nat.add_assoc]

theorem Reaches.passes {pattern : Regex} {place ending : Cursor}
    (reaches : Reaches pattern place ending) : ∃ text, Passes place text ending := by
  induction reaches with
  | empty place | manyStop place | starStop place => exact ⟨[], .refl place⟩
  | edge => exact ⟨[], .refl _⟩
  | one => exact ⟨[_], .char ..⟩
  | manyMore fits later ih =>
    obtain ⟨text, passes⟩ := ih
    exact ⟨_, (Passes.char ..).trans passes⟩
  | preferred taken ih | other taken ih => exact ih
  | seq first second before after | starMore first ahead second before after =>
    obtain ⟨text, passes⟩ := before
    obtain ⟨more, further⟩ := after
    exact ⟨text ++ more, passes.trans further⟩

private theorem reaches_of_mem_runsFrom {allowed : Char → Bool} {ending : Cursor} {index : Nat}
    {before : Option Char} {passed : List Cursor} {rest : List Char}
    (member : ending ∈ Cursor.runsFrom allowed index before passed rest) :
    ending ∈ passed ∨ Reaches (.many allowed) ⟨index, before, rest⟩ ending := by
  induction rest generalizing index before passed with
  | nil =>
    rcases List.mem_cons.mp member with rfl | old
    · exact Or.inr (.manyStop _)
    · exact Or.inl old
  | cons c rest ih =>
    have pushed : ending ∈ (⟨index, before, c :: rest⟩ : Cursor) :: passed →
        ending ∈ passed ∨ Reaches (.many allowed) ⟨index, before, c :: rest⟩ ending := by
      intro held
      rcases List.mem_cons.mp held with rfl | old
      · exact Or.inr (.manyStop _)
      · exact Or.inl old
    unfold Cursor.runsFrom at member
    dsimp only at member
    split at member
    next fits =>
      rcases ih member with held | later
      · exact pushed held
      · exact Or.inr (.manyMore fits later)
    next => exact pushed member

section search
variable {α : Type} {result : α}

private theorem repeatFirst_sound {body : Regex} {done : Cursor → Option α}
    {round : Cursor → (Cursor → Option α) → Option α}
    (sound : ∀ {place : Cursor} {next : Cursor → Option α}, round place next = some result →
      ∃ ending, Reaches body place ending ∧ next ending = some result)
    (limit : Nat) {place : Cursor}
    (found : Regex.repeatFirst round done limit place = some result) :
    ∃ ending, Reaches (.star body) place ending ∧ done ending = some result := by
  induction limit generalizing place with
  | zero => exact ⟨place, .starStop place, found⟩
  | succ limit ih =>
    unfold Regex.repeatFirst at found
    split at found
    next taken =>
      cases found
      obtain ⟨middle, rounded, later⟩ := sound taken
      split at later
      next ahead =>
        obtain ⟨ending, reaches, last⟩ := ih later
        exact ⟨ending, .starMore rounded ahead reaches, last⟩
      next => cases later
    next => exact ⟨place, .starStop place, found⟩

/-- The search ends only where the pattern leads to. -/
private theorem first?_sound (pattern : Regex) {place : Cursor} {done : Cursor → Option α}
    (found : pattern.first? place done = some result) :
    ∃ ending, Reaches pattern place ending ∧ done ending = some result := by
  induction pattern generalizing place done with
  | empty => exact ⟨place, .empty place, found⟩
  | one allowed =>
    obtain ⟨next, taken, last⟩ := Option.bind_eq_some_iff.mp found
    obtain ⟨index, before, rest⟩ := place
    cases rest with
    | nil => cases taken
    | cons c rest =>
      unfold Cursor.one? at taken
      dsimp only at taken
      split at taken
      next fits =>
        cases taken
        exact ⟨_, .one fits, last⟩
      next => cases taken
  | many allowed =>
    obtain ⟨ending, member, last⟩ := List.exists_of_findSome?_eq_some found
    rcases reaches_of_mem_runsFrom member with impossible | reaches
    · cases impossible
    · exact ⟨ending, reaches, last⟩
  | seq head tail first second =>
    obtain ⟨middle, before, found⟩ := first found
    obtain ⟨ending, after, last⟩ := second found
    exact ⟨ending, .seq before after, last⟩
  | alt preferred other left right =>
    unfold Regex.first? at found
    split at found
    next taken =>
      cases found
      obtain ⟨ending, reaches, last⟩ := left taken
      exact ⟨ending, .preferred reaches, last⟩
    next =>
      obtain ⟨ending, reaches, last⟩ := right found
      exact ⟨ending, .other reaches, last⟩
  | star body ih => exact repeatFirst_sound ih _ found
  | edge =>
    unfold Regex.first? at found
    split at found
    next onEdge => exact ⟨place, .edge onEdge, found⟩
    next => cases found

end search

theorem end?_sound {pattern : Regex} {place ending : Cursor}
    (found : pattern.end? place = some ending) : Reaches pattern place ending := by
  obtain ⟨last, reaches, same⟩ := first?_sound pattern found
  cases same
  exact reaches

/-- A stretch of a text, not empty, that the pattern passes from where it starts. -/
structure Fits (pattern : Regex) (text : List Char) (span : Span) : Prop where
  matched : ∃ before ending, Reaches pattern ⟨span.start, before, text.drop span.start⟩ ending ∧
    Passes ⟨span.start, before, text.drop span.start⟩ span.text ending ∧ ending.index = span.stop
  nonempty : span.text ≠ []

section from_place
variable {pattern : Regex} {text : List Char} {span : Span} {place : Nat}

theorem Fits.occurs (fits : Fits pattern text span) (ahead : place ≤ span.start) :
    span.text <+: (text.drop place).drop (span.start - place) := by
  obtain ⟨_, ending, _, passes, _⟩ := fits.matched
  rw [List.drop_drop, Nat.add_sub_of_le ahead]
  exact ⟨ending.rest, passes.written.symm⟩

theorem Fits.drop_stop (fits : Fits pattern text span) (ahead : place ≤ span.start) :
    (text.drop place).drop (span.start - place + span.text.length) = text.drop span.stop := by
  obtain ⟨_, _, _, passes, stop⟩ := fits.matched
  rw [List.drop_drop, ← stop, passes.index, ← Nat.add_assoc, Nat.add_sub_of_le ahead]

end from_place

/-- Stretches that fit and follow one another from a place on. -/
inductive Placed (pattern : Regex) (text : List Char) : Nat → List Span → Prop where
  | none (place : Nat) : Placed pattern text place []
  | next {place : Nat} {span : Span} {spans : List Span} (fits : Fits pattern text span)
      (ahead : place ≤ span.start) (later : Placed pattern text span.stop spans) :
      Placed pattern text place (span :: spans)

theorem Placed.sooner {pattern : Regex} {text : List Char} {sooner place : Nat}
    {spans : List Span} (placed : Placed pattern text place spans) (le : sooner ≤ place) :
    Placed pattern text sooner spans := by
  cases placed with
  | none => exact .none sooner
  | next fits ahead later => exact .next fits (Nat.le_trans le ahead) later

private theorem fits_of_reaches {pattern : Regex} {text : List Char} {index : Nat}
    {before : Option Char}
    {ending : Cursor} (reaches : Reaches pattern ⟨index, before, text.drop index⟩ ending)
    (longer : ending.index - index ≠ 0) :
    Fits pattern text ⟨index, ending.index, (text.drop index).take (ending.index - index)⟩ := by
  obtain ⟨passed, passes⟩ := reaches.passes
  have size : ending.index - index = passed.length := by
    rw [passes.index, Nat.add_sub_cancel_left]
  have written : text.drop index = passed ++ ending.rest := passes.written
  have taken : (text.drop index).take (ending.index - index) = passed := by
    rw [size, written, List.take_left]
  refine ⟨⟨before, ending, reaches, ?_, rfl⟩, ?_⟩
  · rw [taken]
    exact passes
  · rw [taken]
    rintro rfl
    exact longer size

private theorem spansFrom_placed (pattern : Regex) {text rest : List Char} (index : Nat)
    (before : Option Char) (skip : Nat) (here : text.drop index = rest) :
    Placed pattern text (index + skip) (pattern.spansFrom index before skip rest) := by
  induction rest generalizing index before skip with
  | nil => exact .none _
  | cons c rest ih =>
    have next : text.drop (index + 1) = rest := by
      rw [← List.drop_drop, here, List.drop_one, List.tail_cons]
    cases skip with
    | succ skip =>
      have later := ih (index + 1) (some c) skip next
      rw [Nat.add_assoc, Nat.add_comm 1 skip] at later
      exact later
    | zero =>
      have onward := (ih (index + 1) (some c) 0 next).sooner (Nat.le_succ index)
      unfold Regex.spansFrom
      split
      next ending found =>
        dsimp only
        split
        next => exact onward
        next longer =>
          rw [← here] at found ⊢
          refine .next (fits_of_reaches (end?_sound found) longer) (Nat.le_refl _) ?_
          have stop : index + 1 + (ending.index - index - 1) = ending.index := by omega
          have later := ih (index + 1) (some c) (ending.index - index - 1) next
          rw [stop] at later
          exact later
      next => exact onward

theorem spans_placed (pattern : Regex) (text : List Char) :
    Placed pattern text 0 (pattern.spans text) :=
  spansFrom_placed pattern 0 none 0 rfl

/-- Every match begins with an allowed character. -/
def Starts (allowed : Char → Prop) (pattern : Regex) : Prop :=
  ∀ place ending, Reaches pattern place ending → ∃ c rest, place.rest = c :: rest ∧ allowed c

section starts
variable {allowed : Char → Prop} {first second : Regex}

private theorem starts_one {fitting : Char → Bool} (fits : ∀ c, fitting c = true → allowed c) :
    Starts allowed (.one fitting) := by
  intro place ending reaches
  cases reaches with
  | one fitted => exact ⟨_, _, rfl, fits _ fitted⟩

theorem starts_one_ne {fitting : Char → Bool} {barred : Char} (out : fitting barred = false) :
    Starts (· ≠ barred) (.one fitting) := by
  refine starts_one ?_
  rintro c fits rfl
  rw [out] at fits
  cases fits

theorem Starts.seq (starts : Starts allowed first) : Starts allowed (.seq first second) := by
  intro place ending reaches
  cases reaches with
  | seq before after => exact starts _ _ before

theorem Starts.edge (starts : Starts allowed second) : Starts allowed (.seq .edge second) := by
  intro place ending reaches
  cases reaches with
  | seq before after =>
    cases before with
    | edge => exact starts _ _ after

theorem Starts.alt (left : Starts allowed first) (right : Starts allowed second) :
    Starts allowed (.alt first second) := by
  intro place ending reaches
  cases reaches with
  | preferred taken => exact left _ _ taken
  | other taken => exact right _ _ taken

theorem Starts.fits {pattern : Regex} {text : List Char} {span : Span}
    (starts : Starts allowed pattern) (fits : Fits pattern text span) :
    ∃ c rest, span.text = c :: rest ∧ allowed c := by
  obtain ⟨before, ending, reaches, passes, _⟩ := fits.matched
  obtain ⟨c, rest, here, first⟩ := starts _ _ reaches
  cases written : span.text with
  | nil => exact absurd written fits.nonempty
  | cons other more =>
    have same := passes.written.symm.trans here
    rw [written] at same
    cases same
    exact ⟨_, _, rfl, first⟩

end starts

end NoteBoard.Proofs.RegexMatches
