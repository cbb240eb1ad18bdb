import NoteBoard.Proofs.TomlEntries

/-! Lines of a document in which some keys of some sections are read and all others are not. A line
about something else leaves the values of these keys alone, and does the same with them as without. -/

namespace NoteBoard.Proofs.TomlTables
open Toml TomlEntries

/-! Tables without the keys that are read. -/

def strip (names : List String) (table : Entries) : Entries :=
  table.filter fun entry => entry.1 ∉ names

def hideValue (names : List String) : Value → Value
  | .table origin inner => .table origin (strip names inner)
  | value => value

theorem strip_cons (names : List String) (entry : String × Value) (table : Entries) :
    strip names (entry :: table) =
      if entry.1 ∈ names then strip names table else entry :: strip names table := by
  simp [strip, List.filter_cons]

private theorem lookup_strip {names : List String} {key : String} (other : key ∉ names)
    (table : Entries) :
    (strip names table).lookup key = table.lookup key := by
  induction table with
  | nil => rfl
  | cons entry table ih =>
    rw [strip_cons]
    split
    next read =>
      have ne : key ≠ entry.1 := fun equal => other (equal ▸ read)
      rw [lookup_cons, if_neg ne, ih]
    next => rw [lookup_cons, lookup_cons, ih]

private theorem put_strip {names : List String} {key : String} (other : key ∉ names) (value : Value)
    (table : Entries) : (strip names table).put key value = strip names (table.put key value) := by
  induction table with
  | nil => simp [strip, Entries.put, other]
  | cons entry table ih =>
    by_cases equal : entry.1 = key
    · subst equal
      simp [Entries.put, strip_cons, other]
    · by_cases read : entry.1 ∈ names
      · simp [Entries.put, strip_cons, equal, read, ih]
      · simp [Entries.put, strip_cons, equal, read, ih]

theorem strip_put {names : List String} {key : String} (read : key ∈ names) (value : Value)
    (table : Entries) : strip names (table.put key value) = strip names table := by
  induction table with
  | nil => simp [strip, Entries.put, read]
  | cons entry table ih =>
    by_cases equal : entry.1 = key
    · subst equal
      simp [Entries.put, strip_cons, read]
    · simp [Entries.put, strip_cons, equal, ih]

private theorem strip_of_touches {key : String} {change : Origin → Entries → Option Entries}
    (touches : Touches key change) {names : List String} (other : key ∉ names) (origin : Origin)
    (table : Entries) :
    change origin (strip names table) = (change origin table).map (strip names) := by
  obtain ⟨next, equal⟩ := touches
  rw [equal, equal, updateAt, updateAt, lookup_strip other, Option.map_map]
  simp only [put_strip other, Function.comp_def]

/-- What a change makes of a table does not depend on the keys that are read, where it touches none
of them. -/
private theorem descend_hideValue {approach : Approach} {key : String}
    {change : Origin → Entries → Option Entries} (touches : Touches key change)
    {names : List String} (other : key ∉ names) (old : Option Value) :
    descend approach change (old.map (hideValue names)) =
      (descend approach change old).map (hideValue names) := by
  have same := strip_of_touches touches other
  cases old with
  | none =>
    have empty : change approach.brings [] = (change approach.brings []).map (strip names) :=
      same approach.brings []
    rw [Option.map_none, descend, Option.map_map]
    conv_lhs => rw [empty]
    rw [Option.map_map]
    rfl
  | some value =>
    cases value with
    | table origin inner =>
      simp only [Option.map_some, hideValue, descend, same]
      split
      next => rw [Option.map_map, Option.map_map]; rfl
      next => rfl
    | tables elements =>
      simp only [Option.map_some, hideValue, descend]
      cases elements.getLast? with
      | none => rfl
      | some last => simp only [Option.bind_some, Option.map_map]; rfl
    | text | integer | float | boolean | moment | array => rfl

section sections
variable (fields : String → List String)

/-- The document without the keys that are read in its sections. -/
def hide (entries : Entries) : Entries :=
  entries.map fun entry => (entry.1, hideValue (fields entry.1) entry.2)

theorem lookup_hide (key : String) (entries : Entries) :
    (hide fields entries).lookup key = (entries.lookup key).map (hideValue (fields key)) := by
  induction entries with
  | nil => rfl
  | cons entry entries ih =>
    unfold hide at ih ⊢
    rw [List.map_cons, lookup_cons, lookup_cons, ih]
    split
    next equal => rw [equal, Option.map_some]
    next => rfl

theorem put_hide (key : String) (value : Value) (entries : Entries) :
    (hide fields entries).put key (hideValue (fields key) value) =
      hide fields (entries.put key value) := by
  induction entries with
  | nil => rfl
  | cons entry entries ih =>
    unfold hide at ih ⊢
    by_cases equal : entry.1 = key
    · subst equal
      simp [Entries.put]
    · simp [Entries.put, equal, ih]

theorem updateAt_hide {key : String} {next : Option Value → Option Value}
    (same : ∀ old,
      next (old.map (hideValue (fields key))) = (next old).map (hideValue (fields key)))
    (entries : Entries) :
    updateAt key next (hide fields entries) = (updateAt key next entries).map (hide fields) := by
  rw [updateAt, updateAt, lookup_hide, same, Option.map_map, Option.map_map]
  simp only [put_hide, Function.comp_def]

/-! Lines and where they stand. -/

def headerAfter (header : List String) : Line → List String
  | .pair _ _ => header
  | .table path | .element path => path

def placed : List String → List Line → List (List String × Line)
  | _, [] => []
  | header, line :: doc => (header, line) :: placed (headerAfter header line) doc

/-- What a line is about, named from the start of the document. -/
def address : List String × Line → List String
  | (header, .pair path _) => header ++ path
  | (_, .table path) | (_, .element path) => path

/-- The value that a line gives to a key that is read. -/
def setting? : List String × Line → Option ((String × String) × Value)
  | ([name], .pair [key] value) => if key ∈ fields name then some ((name, key), value) else none
  | _ => none

def settings (header : List String) (doc : List Line) : List ((String × String) × Value) :=
  (placed header doc).filterMap (setting? fields)

/-- The document without its settings. -/
def others (header : List String) (doc : List Line) : List Line :=
  ((placed header doc).filter fun line => (setting? fields line).isNone).map Prod.snd

/-- Addresses of nothing that is read, nor of a whole section with keys that are. -/
def Outside : List String → Prop
  | [] => True
  | [name] => fields name = []
  | name :: key :: _ => key ∉ fields name

/-- A line that opens a section, or is about something else than what is read. -/
def Apart (line : List String × Line) : Prop :=
  (∃ name, line.2 = .table [name]) ∨ Outside fields (address line)

instance : DecidablePred (Outside fields)
  | [] => isTrue trivial
  | [name] => inferInstanceAs (Decidable (fields name = []))
  | name :: key :: _ => inferInstanceAs (Decidable (key ∉ fields name))

def opensSection : Line → Bool
  | .table [_] => true
  | _ => false

private theorem opensSection_iff (line : Line) :
    opensSection line = true ↔ ∃ name, line = .table [name] := by
  constructor
  · intro opens
    unfold opensSection at opens
    split at opens
    next name => exact ⟨name, rfl⟩
    next => cases opens
  · rintro ⟨name, rfl⟩
    rfl

instance : DecidablePred (Apart fields) := fun line =>
  decidable_of_iff (opensSection line.2 = true ∨ Outside fields (address line))
    (or_congr_left (opensSection_iff line.2))

/-! One line. -/

def effect (header : List String) : Line → Entries → Option Entries
  | .pair path value => fun entries =>
    entries.alter? .byHeader (fun _ table => table.addPair? path value) header .header
  | .table path => fun entries => entries.openTable? path
  | .element path => fun entries => entries.addElement? path

theorem add?_eq (draft : Draft) (line : Line) :
    draft.add? line = (effect draft.here line draft.entries).map fun entries =>
      ⟨entries, headerAfter draft.here line⟩ := by
  cases line with
  | pair path value =>
    change (draft.entries.alter? _ _ _ _).bind _ = Option.map _ (draft.entries.alter? _ _ _ _)
    rw [Option.map_eq_bind]
    rfl
  | table path =>
    change (draft.entries.openTable? path).bind _ = Option.map _ (draft.entries.openTable? path)
    rw [Option.map_eq_bind]
    rfl
  | element path =>
    change (draft.entries.addElement? path).bind _ = Option.map _ (draft.entries.addElement? path)
    rw [Option.map_eq_bind]
    rfl

theorem acts_effect (header : List String) (line : Line) :
    Acts (address (header, line)) (effect header line) := by
  cases line with
  | pair path value => exact acts_pair header path value
  | table path =>
    have opens : Acts path (walk .byHeader (fun key _ => updateAt key openNext) path .header) :=
      acts_walk (fun key => ⟨fun _ => openNext, fun _ _ => rfl⟩) path
    rw [← funext (openTable?_eq path)] at opens
    exact opens
  | element path =>
    have adds : Acts path (walk .byHeader (fun key _ => updateAt key elementNext) path .header) :=
      acts_walk (fun key => ⟨fun _ => elementNext, fun _ _ => rfl⟩) path
    rw [← funext (addElement?_eq path)] at adds
    exact adds

private theorem hideValue_nil (value : Value) : hideValue [] value = value := by
  cases value with
  | table origin inner => simp [hideValue, strip]
  | _ => rfl

private theorem openNext_hideValue (names : List String) (old : Option Value) :
    openNext (old.map (hideValue names)) = (openNext old).map (hideValue names) := by
  cases old with
  | none => rfl
  | some value =>
    cases value with
    | table origin inner => cases origin <;> rfl
    | _ => rfl

/-- A line apart from what is read does the same with it as without. -/
theorem effect_hide {header : List String} {line : Line} (apart : Apart fields (header, line))
    (entries : Entries) :
    effect header line (hide fields entries) = (effect header line entries).map (hide fields) := by
  rcases apart with ⟨name, rfl⟩ | outside
  · change (hide fields entries).openTable? [name] = (entries.openTable? [name]).map (hide fields)
    rw [openTable?_eq, openTable?_eq]
    exact updateAt_hide fields (openNext_hideValue (fields name)) entries
  · have acts := acts_effect header line
    generalize address (header, line) = target at acts outside
    cases acts with
    | never fails => rw [fails, fails]; rfl
    | @here name _ next equal =>
      rw [equal, equal]
      refine updateAt_hide fields (fun old => ?_) entries
      have nothing : hideValue (fields name) = id := by
        rw [show fields name = [] from outside]
        exact funext hideValue_nil
      rw [nothing, Option.map_id_apply, Option.map_id_apply]
    | inside touches equal =>
      rw [equal, equal]
      exact updateAt_hide fields (descend_hideValue touches outside) entries

/-! What a line keeps. -/

def inSection (key : String) : Option Value → Option Value
  | some (.table _ inner) => inner.lookup key
  | _ => none

/-- What can stand where settings are added: nothing yet, or a table not closed for good. -/
def Open : Option Value → Prop
  | none => True
  | some (.table origin _) => origin ≠ .inline
  | some _ => False

/-- What a line apart from the keys that are read keeps of a section. -/
structure Keeps (names : List String) (old new : Option Value) : Prop where
  values : ∀ key ∈ names, inSection key new = inSection key old
  opened : names ≠ [] → Open old → Open new

private theorem keeps_openNext {names : List String} {old : Option Value} {value : Value}
    (next : openNext old = some value) : Keeps names old (some value) := by
  cases old with
  | none =>
    obtain rfl := Option.some.inj next
    exact ⟨fun _ _ => rfl, fun _ _ => by simp [Open]⟩
  | some before =>
    cases before with
    | table origin inner =>
      cases origin with
      | implied =>
        obtain rfl := Option.some.inj next
        exact ⟨fun _ _ => rfl, fun _ _ => by simp [Open]⟩
      | _ => cases next
    | _ => cases next

theorem updateAt_eq_some {key : String} {next : Option Value → Option Value}
    {entries after : Entries} (changed : updateAt key next entries = some after) :
    ∃ value, next (entries.lookup key) = some value ∧ after = entries.put key value := by
  obtain ⟨value, found, rfl⟩ := Option.map_eq_some_iff.mp changed
  exact ⟨value, found, rfl⟩

private theorem keeps_descend {approach : Approach} {key : String}
    {change : Origin → Entries → Option Entries} (touches : Touches key change)
    {names : List String} (other : key ∉ names) {old : Option Value} {value : Value}
    (next : descend approach change old = some value) : Keeps names old (some value) := by
  obtain ⟨put, equal⟩ := touches
  have kept {origin : Origin} {before after : Entries}
      (changed : change origin before = some after) :
      ∀ name ∈ names, after.lookup name = before.lookup name := by
    rw [equal] at changed
    obtain ⟨value, _, rfl⟩ := updateAt_eq_some changed
    intro name read
    have ne : name ≠ key := fun same => other (same ▸ read)
    exact lookup_put_of_ne ne value before
  cases old with
  | none =>
    obtain ⟨inner, changed, rfl⟩ := Option.map_eq_some_iff.mp next
    refine ⟨kept changed, fun _ _ => ?_⟩
    cases approach <;> simp [Open, Approach.brings]
  | some before =>
    cases before with
    | table origin inner =>
      simp only [descend] at next
      split at next
      next entered =>
        obtain ⟨after, changed, rfl⟩ := Option.map_eq_some_iff.mp next
        exact ⟨kept changed, fun _ opened => opened⟩
      next => cases next
    | tables elements =>
      simp only [descend] at next
      obtain ⟨last, _, next⟩ := Option.bind_eq_some_iff.mp next
      obtain ⟨after, _, rfl⟩ := Option.map_eq_some_iff.mp next
      exact ⟨fun _ _ => rfl, fun _ opened => opened.elim⟩
    | _ => cases next

theorem Keeps.refl (names : List String) (old : Option Value) : Keeps names old old :=
  ⟨fun _ _ => rfl, fun _ opened => opened⟩

theorem keeps_updateAt {key : String} {next : Option Value → Option Value}
    (keeps : ∀ {old value}, next old = some value → Keeps (fields key) old (some value))
    {entries after : Entries} (changed : updateAt key next entries = some after) (name : String) :
    Keeps (fields name) (entries.lookup name) (after.lookup name) := by
  obtain ⟨value, found, rfl⟩ := updateAt_eq_some changed
  by_cases same : name = key
  · subst same
    rw [lookup_put_self]
    exact keeps found
  · rw [lookup_put_of_ne same]
    exact Keeps.refl _ _

theorem effect_keeps {header : List String} {line : Line} (apart : Apart fields (header, line))
    {entries after : Entries} (changed : effect header line entries = some after) (name : String) :
    Keeps (fields name) (entries.lookup name) (after.lookup name) := by
  rcases apart with ⟨opened, rfl⟩ | outside
  · change entries.openTable? [opened] = some after at changed
    rw [openTable?_eq] at changed
    exact keeps_updateAt fields keeps_openNext changed name
  · have acts := acts_effect header line
    generalize address (header, line) = target at acts outside
    cases acts with
    | never fails =>
      rw [fails] at changed
      cases changed
    | @here key _ next equal =>
      rw [equal] at changed
      refine keeps_updateAt fields (fun _ => ?_) changed name
      rw [show fields key = [] from outside]
      exact ⟨fun _ read => absurd read List.not_mem_nil, fun read => absurd rfl read⟩
    | inside touches equal =>
      rw [equal] at changed
      exact keeps_updateAt fields (keeps_descend touches outside) changed name

theorem effect_present {header : List String} {line : Line} {entries after : Entries}
    (changed : effect header line entries = some after) {name : String}
    (present : (entries.lookup name).isSome) : (after.lookup name).isSome := by
  have put {key : String} {next : Option Value → Option Value}
      (changed : updateAt key next entries = some after) : (after.lookup name).isSome := by
    obtain ⟨value, _, rfl⟩ := updateAt_eq_some changed
    by_cases same : name = key
    · rw [same, lookup_put_self]
      rfl
    · rwa [lookup_put_of_ne same]
  have acts := acts_effect header line
  generalize address (header, line) = target at acts
  cases acts with
  | never fails =>
    rw [fails] at changed
    cases changed
  | here equal => exact put (equal entries ▸ changed)
  | inside touches equal => exact put (equal entries ▸ changed)

end sections

end NoteBoard.Proofs.TomlTables
