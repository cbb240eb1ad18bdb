import NoteBoard.Proofs.TomlSettings

/-! Documents laid out section by section build up these sections. -/

namespace NoteBoard.Proofs.TomlLayout
open Toml TomlEntries TomlSettings TomlTables

def linesOf (table : Entries) : List Line := table.map fun entry => .pair [entry.1] entry.2

structure Layout where
  loose : Entries
  sections : List (String × Entries)

namespace Layout

def lines (layout : Layout) : List Line :=
  linesOf layout.loose ++ layout.sections.flatMap fun part => .table [part.1] :: linesOf part.2

def entries (layout : Layout) : Entries :=
  layout.loose ++ layout.sections.map fun part => (part.1, .table .header part.2)

structure Proper (layout : Layout) : Prop where
  names : (layout.entries.map Prod.fst).Nodup
  keys : ∀ part ∈ layout.sections, (part.2.map Prod.fst).Nodup

end Layout

private theorem run_loose (table start : Entries) :
    (linesOf table).foldlM Draft.add? ⟨start, []⟩ =
      (table.foldlM (fun table entry => Entries.fresh? entry.1 entry.2 table) start).map
        fun entries => ⟨entries, []⟩ := by
  induction table generalizing start with
  | nil => rfl
  | cons entry table ih =>
    have added : (⟨start, []⟩ : Draft).add? (.pair [entry.1] entry.2) =
        (start.fresh? entry.1 entry.2).map fun entries => ⟨entries, []⟩ := by
      rw [add?_eq]
      rfl
    unfold linesOf at ih ⊢
    rw [List.map_cons, List.foldlM_cons, List.foldlM_cons, added]
    cases start.fresh? entry.1 entry.2 with
    | none => rfl
    | some entries => exact ih entries

private theorem run_section {name : String} {table entries inner : Entries}
    (stands : entries.lookup name = some (.table .header inner))
    (distinct : ((inner ++ table).map Prod.fst).Nodup) :
    (linesOf table).foldlM Draft.add? ⟨entries, [name]⟩ =
      some ⟨entries.put name (.table .header (inner ++ table)), [name]⟩ := by
  induction table generalizing entries inner with
  | nil =>
    rw [List.append_nil, put_of_lookup stands]
    rfl
  | cons entry table ih =>
    have absent : inner.lookup entry.1 = none := by
      rw [List.map_append] at distinct
      rw [lookup_eq_none]
      intro member
      exact (List.nodup_append.mp distinct).2.2 _ member _ List.mem_cons_self rfl
    have added : (⟨entries, [name]⟩ : Draft).add? (.pair [entry.1] entry.2) =
        some ⟨entries.put name (.table .header (inner ++ [entry])), [name]⟩ := by
      rw [add?_setting rfl stands (by decide) absent, put_of_lookup_none absent]
    rw [List.append_cons] at distinct
    have later := ih (lookup_put_self name _ entries) distinct
    rw [put_put, ← List.append_cons] at later
    rw [linesOf, List.map_cons, List.foldlM_cons, added]
    exact later

private theorem run_sections {sections : List (String × Entries)} {start : Entries}
    {header : List String}
    (names : (start.map Prod.fst ++ sections.map Prod.fst).Nodup)
    (keys : ∀ part ∈ sections, (part.2.map Prod.fst).Nodup) :
    ((sections.flatMap fun part => .table [part.1] :: linesOf part.2).foldlM Draft.add?
        ⟨start, header⟩).map Draft.entries =
      some (start ++ sections.map fun part => (part.1, .table .header part.2)) := by
  induction sections generalizing start header with
  | nil => simp
  | cons part sections ih =>
    obtain ⟨here, others⟩ := List.forall_mem_cons.mp keys
    have absent : start.lookup part.1 = none := by
      rw [lookup_eq_none]
      intro member
      exact (List.nodup_append.mp names).2.2 _ member _ List.mem_cons_self rfl
    have opened : (⟨start, header⟩ : Draft).add? (.table [part.1]) =
        some ⟨start.put part.1 (.table .header []), [part.1]⟩ := by
      rw [add?_eq]
      simp only [effect, openTable?_eq, walk, updateAt, absent]
      rfl
    have filled := run_section (lookup_put_self part.1 (.table .header []) start) here
    rw [put_put, List.nil_append, put_of_lookup_none absent (.table .header part.2)] at filled
    rw [List.map_cons, List.append_cons] at names
    have distinct : ((start ++ [(part.1, Value.table .header part.2)]).map Prod.fst ++
        sections.map Prod.fst).Nodup := by
      simpa using names
    have later := @ih _ [part.1] distinct others
    rw [List.flatMap_cons, List.cons_append, List.foldlM_cons, opened, Option.bind_eq_bind,
      Option.bind_some, List.foldlM_append, filled, Option.bind_eq_bind, Option.bind_some]
    rw [← List.append_cons] at later
    exact later

theorem ofLines?_lines {layout : Layout} (proper : layout.Proper) :
    ofLines? layout.lines = some layout.entries := by
  have names := proper.names
  have distinct : (layout.loose.map Prod.fst ++ layout.sections.map Prod.fst).Nodup := by
    simpa [Layout.entries, Function.comp_def] using names
  have loose := foldlM_fresh? [] (List.nodup_append.mp distinct).1
  unfold ofLines? Layout.lines
  rw [List.foldlM_append]
  change ((List.foldlM Draft.add? ⟨[], []⟩ (linesOf layout.loose)).bind _).map _ = _
  rw [run_loose, loose]
  exact run_sections distinct proper.keys

/-! The settings of a layout. -/

section settings
variable (fields : String → List String)

def setting (name : String) (entry : String × Value) : Option ((String × String) × Value) :=
  if entry.1 ∈ fields name then some ((name, entry.1), entry.2) else none

def Layout.settings (layout : Layout) : List ((String × String) × Value) :=
  layout.sections.flatMap fun part => part.2.filterMap (setting fields part.1)

theorem placed_linesOf (header : List String) (table : Entries) (doc : List Line) :
    placed header (linesOf table ++ doc) =
      (table.map fun entry => (header, .pair [entry.1] entry.2)) ++ placed header doc := by
  induction table with
  | nil => rfl
  | cons entry table ih =>
    unfold linesOf at ih ⊢
    rw [List.map_cons, List.cons_append, placed, headerAfter, ih]
    rfl

private theorem setting?_table (header path : List String) :
    setting? fields (header, .table path) = none := by
  cases said : setting? fields (header, .table path) with
  | none => rfl
  | some setting =>
    obtain ⟨_, _, _, _, line, _⟩ := setting?_eq_some fields said
    cases line

private theorem settings_sections (header : List String) (sections : List (String × Entries)) :
    TomlTables.settings fields header
        (sections.flatMap fun part => .table [part.1] :: linesOf part.2) =
      sections.flatMap fun part => part.2.filterMap (setting fields part.1) := by
  induction sections generalizing header with
  | nil => rfl
  | cons part sections ih =>
    unfold TomlTables.settings at ih ⊢
    rw [List.flatMap_cons, List.flatMap_cons, List.cons_append, placed, headerAfter,
      placed_linesOf, List.filterMap_cons_none (setting?_table fields _ _), List.filterMap_append,
      ih, List.filterMap_map]
    rfl

theorem settings_lines (layout : Layout) :
    TomlTables.settings fields [] layout.lines = layout.settings fields := by
  have loose : (layout.loose.map fun entry => ([], .pair [entry.1] entry.2)).filterMap
      (setting? fields) = [] := by
    simp [setting?]
  unfold TomlTables.settings Layout.lines
  rw [placed_linesOf, List.filterMap_append, loose, List.nil_append]
  exact settings_sections fields [] layout.sections

private theorem apart_sections (header : List String) (sections : List (String × Entries)) :
    ∀ line ∈ placed header (sections.flatMap fun part => .table [part.1] :: linesOf part.2),
      setting? fields line = none → Apart fields line := by
  induction sections generalizing header with
  | nil => exact fun line member => absurd member List.not_mem_nil
  | cons part sections ih =>
    rw [List.flatMap_cons, List.cons_append, placed, headerAfter, placed_linesOf]
    refine List.forall_mem_cons.mpr ⟨fun _ => .inl ⟨part.1, rfl⟩, ?_⟩
    refine List.forall_mem_append.mpr ⟨List.forall_mem_map.mpr fun entry _ unread => .inr ?_, ih _⟩
    have other : entry.1 ∉ fields part.1 := by simpa [setting?] using unread
    exact other

theorem apart_lines {layout : Layout} (unread : ∀ entry ∈ layout.loose, fields entry.1 = []) :
    ∀ line ∈ placed [] layout.lines, setting? fields line = none → Apart fields line := by
  unfold Layout.lines
  rw [placed_linesOf]
  exact List.forall_mem_append.mpr ⟨List.forall_mem_map.mpr fun entry member _ =>
    .inr (unread entry member), apart_sections fields [] layout.sections⟩

end settings

end NoteBoard.Proofs.TomlLayout
