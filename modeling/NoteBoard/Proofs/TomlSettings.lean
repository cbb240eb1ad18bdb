import NoteBoard.Proofs.TomlTables

/-! Documents in which some keys of some sections are read. What stands under these keys is what the
document says of them, and all its other lines build up the same tables with them as without. -/

namespace NoteBoard.Proofs.TomlSettings
open Toml TomlEntries TomlTables

section sections
variable (fields : String → List String)

/-- What is read is what the settings so far say. -/
structure Tracks (found : List ((String × String) × Value)) (draft : Draft) : Prop where
  present : ∀ name, fields name ≠ [] → draft.here = [name] → (draft.entries.lookup name).isSome
  opened : ∀ name, fields name ≠ [] → Open (draft.entries.lookup name)
  values : ∀ name, ∀ key ∈ fields name, ∀ value,
    inSection key (draft.entries.lookup name) = some value ↔ ((name, key), value) ∈ found

theorem tracks_empty : Tracks fields [] {} where
  present _ _ here := nomatch here
  opened _ _ := trivial
  values _ _ _ _ := by simp [inSection]

theorem Tracks.apart {found : List ((String × String) × Value)} {draft after : Draft} {line : Line}
    (tracks : Tracks fields found draft) (apart : Apart fields (draft.here, line))
    (added : draft.add? line = some after) : Tracks fields found after := by
  rw [add?_eq] at added
  obtain ⟨entries, changed, rfl⟩ := Option.map_eq_some_iff.mp added
  have keeps := effect_keeps fields apart changed
  refine ⟨fun name read here => ?_, fun name read => ?_, fun name key read value => ?_⟩
  · cases line with
    | pair path value => exact effect_present changed (tracks.present name read here)
    | table path =>
      obtain rfl : path = [name] := here
      change draft.entries.openTable? [name] = some entries at changed
      rw [openTable?_eq] at changed
      obtain ⟨value, _, rfl⟩ := updateAt_eq_some changed
      rw [lookup_put_self]
      rfl
    | element path =>
      obtain rfl : path = [name] := here
      rcases apart with ⟨_, header⟩ | unread
      · cases header
      · exact absurd unread read
  · exact (keeps name).opened read (tracks.opened name read)
  · rw [(keeps name).values key read]
    exact tracks.values name key read value

private theorem hide_put {name key : String} (read : key ∈ fields name) {entries : Entries}
    {origin : Origin} {inner : Entries}
    (stands : entries.lookup name = some (.table origin inner)) (value : Value) :
    hide fields (entries.put name (.table origin (inner.put key value))) = hide fields entries := by
  have hidden : (hide fields entries).lookup name =
      some (.table origin (strip (fields name) (inner.put key value))) := by
    rw [lookup_hide, stands, strip_put read]
    rfl
  rw [← put_hide]
  exact put_of_lookup hidden

theorem add?_setting {draft : Draft} {name key : String} (here : draft.here = [name])
    {origin : Origin} {inner : Entries}
    (stands : draft.entries.lookup name = some (.table origin inner)) (closed : origin ≠ .inline)
    (absent : inner.lookup key = none) (value : Value) :
    draft.add? (.pair [key] value) =
      some ⟨draft.entries.put name (.table origin (inner.put key value)), [name]⟩ := by
  have entered : Approach.byHeader.enters origin = true := by
    cases origin with
    | inline => exact absurd rfl closed
    | _ => rfl
  rw [add?_eq, here]
  simp only [effect, Entries.alter?, stands, entered, if_true, addPair?_singleton, updateAt, absent]
  rfl

theorem Tracks.section {found : List ((String × String) × Value)} {draft : Draft}
    (tracks : Tracks fields found draft) {name : String} (here : draft.here = [name])
    (known : fields name ≠ []) :
    ∃ origin inner, draft.entries.lookup name = some (.table origin inner) ∧ origin ≠ .inline := by
  obtain ⟨value, stands⟩ := Option.isSome_iff_exists.mp (tracks.present name known here)
  have opened := tracks.opened name known
  rw [stands] at opened
  cases value with
  | table origin inner => exact ⟨origin, inner, stands, opened⟩
  | _ => exact opened.elim

theorem Tracks.setting {found : List ((String × String) × Value)} {draft : Draft}
    (tracks : Tracks fields found draft) {name key : String} (here : draft.here = [name])
    (read : key ∈ fields name) (fresh : ∀ value, ((name, key), value) ∉ found) (value : Value) :
    ∃ entries, draft.add? (.pair [key] value) = some ⟨entries, [name]⟩ ∧
      hide fields entries = hide fields draft.entries ∧
      Tracks fields (found ++ [((name, key), value)]) ⟨entries, [name]⟩ := by
  obtain ⟨origin, inner, stands, closed⟩ := tracks.section fields here (List.ne_nil_of_mem read)
  have values := tracks.values name
  rw [stands] at values
  have absent : inner.lookup key = none :=
    Option.eq_none_iff_forall_ne_some.mpr fun value found =>
      fresh value ((values key read value).mp found)
  refine ⟨_, add?_setting here stands closed absent value, hide_put fields read stands value, ?_⟩
  constructor
  · rintro other _ same
    obtain rfl : name = other := List.singleton_inj.mp same
    rw [lookup_put_self]
    rfl
  · intro other known
    by_cases same : other = name
    · rw [same, lookup_put_self]
      exact closed
    · rw [lookup_put_of_ne same]
      exact tracks.opened other known
  · intro other field member old
    rw [List.mem_append, List.mem_singleton]
    by_cases under : other = name
    · subst under
      rw [lookup_put_self]
      by_cases same : field = key
      · subst same
        rw [inSection, lookup_put_self]
        simp [fresh, eq_comm]
      · rw [inSection, lookup_put_of_ne same]
        simpa [same, inSection] using values field member old
    · rw [lookup_put_of_ne under]
      simpa [under] using tracks.values other field member old

def hideDraft (draft : Draft) : Draft := { draft with entries := hide fields draft.entries }

private theorem add?_hideDraft {draft : Draft} {line : Line}
    (apart : Apart fields (draft.here, line)) :
    (hideDraft fields draft).add? line = (draft.add? line).map (hideDraft fields) := by
  rw [add?_eq, add?_eq, hideDraft, effect_hide fields apart, Option.map_map, Option.map_map]
  rfl

private theorem here_of_add? {draft after : Draft} {line : Line}
    (added : draft.add? line = some after) :
    after.here = headerAfter draft.here line := by
  rw [add?_eq] at added
  obtain ⟨_, _, rfl⟩ := Option.map_eq_some_iff.mp added
  rfl

theorem setting?_eq_some {header : List String} {line : Line}
    {setting : (String × String) × Value} (said : setting? fields (header, line) = some setting) :
    ∃ name key value, header = [name] ∧ line = .pair [key] value ∧ key ∈ fields name ∧
      setting = ((name, key), value) := by
  unfold setting? at said
  split at said
  next name key value equal =>
    obtain ⟨rfl, rfl⟩ := Prod.mk.inj equal
    split at said
    next read =>
      obtain rfl := Option.some.inj said
      exact ⟨name, key, value, rfl, rfl, read, rfl⟩
    next => cases said
  next => cases said

section cons
variable {fields} {header : List String} {line : Line} {doc : List Line}

private theorem settings_cons_other (other : setting? fields (header, line) = none) :
    settings fields header (line :: doc) = settings fields (headerAfter header line) doc := by
  simp [settings, placed, other]

private theorem settings_cons_setting {setting : (String × String) × Value}
    (said : setting? fields (header, line) = some setting) :
    settings fields header (line :: doc) =
      setting :: settings fields (headerAfter header line) doc := by
  simp [settings, placed, said]

private theorem others_cons_other (other : setting? fields (header, line) = none) :
    others fields header (line :: doc) = line :: others fields (headerAfter header line) doc := by
  simp [others, placed, other]

private theorem others_cons_setting {setting : (String × String) × Value}
    (said : setting? fields (header, line) = some setting) :
    others fields header (line :: doc) = others fields (headerAfter header line) doc := by
  simp [others, placed, said]

end cons

/-- The settings of a document are all taken, and it builds up the same tables around them as
without them. -/
theorem run_settings {doc : List Line} {draft : Draft}
    {found : List ((String × String) × Value)} (tracks : Tracks fields found draft)
    (once : ((found ++ settings fields draft.here doc).map Prod.fst).Nodup)
    (apart : ∀ line ∈ placed draft.here doc, setting? fields line = none → Apart fields line) :
    (others fields draft.here doc).foldlM Draft.add? (hideDraft fields draft) =
        (doc.foldlM Draft.add? draft).map (hideDraft fields) ∧
      ∀ final, doc.foldlM Draft.add? draft = some final →
        Tracks fields (found ++ settings fields draft.here doc) final := by
  induction doc generalizing draft found with
  | nil =>
    refine ⟨rfl, fun final same => ?_⟩
    obtain rfl := Option.some.inj same
    simpa [settings, placed] using tracks
  | cons line doc ih =>
    obtain ⟨first, rest⟩ := List.forall_mem_cons.mp apart
    cases said : setting? fields (draft.here, line) with
    | none =>
      rw [settings_cons_other said] at once ⊢
      rw [others_cons_other said, List.foldlM_cons, List.foldlM_cons,
        add?_hideDraft fields (first said)]
      cases added : draft.add? line with
      | none => exact ⟨rfl, fun final same => by cases same⟩
      | some after =>
        rw [← here_of_add? added] at once rest ⊢
        exact ih (tracks.apart fields (first said) added) once rest
    | some setting =>
      rw [settings_cons_setting said] at once ⊢
      rw [others_cons_setting said, List.foldlM_cons]
      obtain ⟨name, key, value, here, rfl, read, rfl⟩ := setting?_eq_some fields said
      have fresh : ∀ value, ((name, key), value) ∉ found := by
        intro value member
        rw [List.map_append] at once
        exact (List.nodup_append.mp once).2.2 _ (List.mem_map_of_mem member) _
          (List.mem_map_of_mem List.mem_cons_self) rfl
      obtain ⟨entries, added, hidden, next⟩ := tracks.setting fields here read fresh value
      have same : hideDraft fields draft = hideDraft fields ⟨entries, [name]⟩ := by
        rw [hideDraft, hideDraft, here, hidden]
      rw [List.append_cons] at once ⊢
      rw [headerAfter, here] at once rest ⊢
      rw [added, same]
      exact ih next once rest

/-- Every setting stands at an address of its own, and no other line is about what is read. -/
structure Arranged (doc : List Line) : Prop where
  once : ((settings fields [] doc).map Prod.fst).Nodup
  apart : ∀ line ∈ placed [] doc, setting? fields line = none → Apart fields line

variable {fields} {doc : List Line}

/-- The settings have no part in whether a document is accepted. -/
theorem ofLines?_others (arranged : Arranged fields doc) :
    ofLines? (others fields [] doc) = (ofLines? doc).map (hide fields) := by
  have run := (run_settings fields (tracks_empty fields) arranged.once arranged.apart).1
  unfold ofLines?
  change ((others fields [] doc).foldlM Draft.add? {}).map _ = _
  rw [show ({} : Draft) = hideDraft fields {} from rfl]
  rw [run, Option.map_map, Option.map_map]
  rfl

theorem found_in_sections (arranged : Arranged fields doc) {entries : Entries}
    (accepted : ofLines? doc = some entries) :
    (∀ name, fields name ≠ [] → Open (entries.lookup name)) ∧
      ∀ name, ∀ key ∈ fields name, ∀ value,
        inSection key (entries.lookup name) = some value ↔
          ((name, key), value) ∈ settings fields [] doc := by
  obtain ⟨final, built, rfl⟩ := Option.map_eq_some_iff.mp accepted
  have run := run_settings fields (tracks_empty fields) arranged.once arranged.apart
  have tracks := run.2 final built
  exact ⟨tracks.opened, tracks.values⟩

end sections

end NoteBoard.Proofs.TomlSettings
