import NoteBoard.Proofs.RegexMatches

/-! What the matches of a pattern look like, put together from what its parts match. Edges consume
nothing, so they count as the empty text here. -/

namespace NoteBoard.Proofs.MatchTexts
open RegexMatches

/-- Whatever the pattern consumes has the property. -/
def Yields (property : List Char → Prop) (pattern : Regex) : Prop :=
  ∀ place ending, Reaches pattern place ending → ∃ text, Passes place text ending ∧ property text

section yields
variable {property head tail : List Char → Prop} {first second body : Regex}

theorem Yields.imp {other : List Char → Prop} (yields : Yields property body)
    (implies : ∀ text, property text → other text) : Yields other body := by
  intro place ending reaches
  obtain ⟨text, passes, holds⟩ := yields place ending reaches
  exact ⟨text, passes, implies text holds⟩

theorem yields_empty (holds : property []) : Yields property .empty := by
  intro place ending reaches
  cases reaches
  exact ⟨[], .refl place, holds⟩

theorem yields_edge (holds : property []) : Yields property .edge := by
  intro place ending reaches
  cases reaches
  exact ⟨[], .refl place, holds⟩

theorem yields_one {allowed : Char → Bool} (holds : ∀ c, allowed c = true → property [c]) :
    Yields property (.one allowed) := by
  intro place ending reaches
  cases reaches with
  | one fits => exact ⟨[_], .char .., holds _ fits⟩

theorem yields_many {allowed : Char → Bool} (none : property [])
    (more : ∀ c text, allowed c = true → property text → property (c :: text)) :
    Yields property (.many allowed) := by
  intro place ending reaches
  generalize same : Regex.many allowed = pattern at reaches
  induction reaches with
  | manyStop place => exact ⟨[], .refl place, none⟩
  | manyMore fits later ih =>
    cases same
    obtain ⟨text, passes, holds⟩ := ih rfl
    exact ⟨_, (Passes.char ..).trans passes, more _ text fits holds⟩
  | _ => cases same

theorem Yields.seq (left : Yields head first) (right : Yields tail second)
    (join : ∀ before after, head before → tail after → property (before ++ after)) :
    Yields property (.seq first second) := by
  intro place ending reaches
  cases reaches with
  | seq toMiddle fromMiddle =>
    obtain ⟨before, passes, holds⟩ := left _ _ toMiddle
    obtain ⟨after, further, also⟩ := right _ _ fromMiddle
    exact ⟨before ++ after, passes.trans further, join before after holds also⟩

theorem Yields.alt (left : Yields property first) (right : Yields property second) :
    Yields property (.alt first second) := by
  intro place ending reaches
  cases reaches with
  | preferred taken => exact left _ _ taken
  | other taken => exact right _ _ taken

theorem Yields.opt (yields : Yields property body) (none : property []) :
    Yields property body.opt := yields.alt (yields_empty none)

theorem Yields.star (yields : Yields property body) (none : property [])
    (join : ∀ before after, property before → property after → property (before ++ after)) :
    Yields property (.star body) := by
  intro place ending reaches
  generalize same : Regex.star body = pattern at reaches
  induction reaches with
  | starStop place => exact ⟨[], .refl place, none⟩
  | starMore round ahead later _ ih =>
    cases same
    obtain ⟨before, passes, holds⟩ := yields _ _ round
    obtain ⟨after, further, also⟩ := ih rfl
    exact ⟨before ++ after, passes.trans further, join before after holds also⟩
  | _ => cases same

theorem Yields.choice {alternatives : List Regex}
    (each : ∀ alternative ∈ alternatives, Yields property alternative)
    (last : Yields property body) : Yields property (Regex.choice alternatives body) := by
  induction alternatives with
  | nil => exact last
  | cons alternative alternatives ih =>
    obtain ⟨here, later⟩ := List.forall_mem_cons.mp each
    exact here.alt (ih later)

theorem Yields.fits {text : List Char} {span : Span} (yields : Yields property body)
    (fits : Fits body text span) : property span.text := by
  obtain ⟨before, ending, reaches, passes, _⟩ := fits.matched
  obtain ⟨consumed, same, holds⟩ := yields _ _ reaches
  have equal : consumed = span.text :=
    List.append_cancel_right (same.written.symm.trans passes.written)
  exact equal ▸ holds

end yields

theorem fits_of_placed {pattern : Regex} {text : List Char} {place : Nat} {spans : List Span}
    (placed : Placed pattern text place spans) : ∀ span ∈ spans, Fits pattern text span := by
  induction placed with
  | none place => simp
  | next fits ahead later ih => exact List.forall_mem_cons.mpr ⟨fits, ih⟩

end NoteBoard.Proofs.MatchTexts
