import Mathlib.Data.List.Perm.Basic
import NoteBoard.Proofs.ConfigValues
import NoteBoard.Proofs.TomlLayout
import NoteBoard.Proofs.TomlLines

/-! The configuration that a document describes. It has the values that the document gives, in
whatever order, and the defaults for everything else; other keys and sections have no part in it. -/

namespace NoteBoard.Proofs.ConfigDocuments
open Config ConfigValues Toml TomlEntries TomlLayout TomlLines TomlSettings TomlTables

/-! Documents that give values under the headers of sections. -/

/-- A document whose settings are the given values, in any order. All other lines open sections or
are about keys that are not known. -/
structure Writes (given : Given) (doc : List Line) : Prop where
  settings : (TomlTables.settings known [] doc).Perm given.settings
  apart : ∀ line ∈ placed [] doc, setting? known line = none → Apart known line

theorem Writes.arranged {given : Given} {doc : List Line} (writes : Writes given doc) :
    Arranged known doc where
  once := (writes.settings.map Prod.fst).nodup_iff.mpr (nodup_settings given)
  apart := writes.apart

private theorem table_of_open {value : Option Value} (opened : Open value) :
    ∃ table, sectionTable? value = some table ∧ ∀ key, inSection key value = table.lookup key := by
  cases value with
  | none => exact ⟨[], rfl, fun _ => rfl⟩
  | some value =>
    cases value with
    | table origin table => exact ⟨table, rfl, fun _ => rfl⟩
    | _ => exact opened.elim

theorem Writes.holds {given : Given} {doc : List Line} (writes : Writes given doc)
    {entries : Entries} (accepted : ofLines? doc = some entries) : Holds given entries := by
  obtain ⟨opened, values⟩ := found_in_sections writes.arranged accepted
  intro name member
  have read : ∀ name ∈ schema.map Prod.fst, known name ≠ [] := by decide
  obtain ⟨table, stands, same⟩ := table_of_open (opened name (read name member))
  refine ⟨table, stands, fun key value field => Option.ext fun found => ?_⟩
  calc table.lookup key = some found
      ↔ inSection key (entries.lookup name) = some found := by rw [same]
    _ ↔ ((name, key), found) ∈ TomlTables.settings known [] doc :=
        values name key (known_of_mem field) found
    _ ↔ ((name, key), found) ∈ given.settings := writes.settings.mem_iff
    _ ↔ value = some found := mem_settings_iff field found

/-- Such a document is accepted if it is one without the given values, and then these are all that
the configuration depends on. -/
structure Deserializes (given : Given) (doc : List Line) : Prop where
  spelled : ∀ text, linesOf? text = some doc →
    Config.ofDocument? text = (ofLines? (others known [] doc)).map fun _ => given.config
  written : (∀ line ∈ doc, Fit line) →
    Config.ofDocument? (write doc) = (ofLines? (others known [] doc)).map fun _ => given.config

theorem Writes.deserializes {given : Given} {doc : List Line} (writes : Writes given doc) :
    Deserializes given doc := by
  have outcome : ∀ text, linesOf? text = some doc →
      Config.ofDocument? text = (ofLines? (others known [] doc)).map fun _ => given.config := by
    intro text lines
    have read : Config.ofDocument? text = (ofLines? doc).bind fun entries =>
        ofEntries? sections entries {} := by
      unfold Config.ofDocument?
      rw [parse?_eq, lines]
      rfl
    rw [read, ofLines?_others writes.arranged, Option.map_map]
    cases accepted : ofLines? doc with
    | none => rfl
    | some entries => exact ofEntries?_given (writes.holds accepted)
  exact ⟨outcome, fun fit => outcome (write doc) (linesOf?_write fit)⟩

/-! Documents laid out section by section. -/

/-- A layout with the given values: sections and keys stand in any order, and there can be others of
any name. -/
structure Assigns (given : Given) (layout : Layout) : Prop where
  proper : layout.Proper
  settings : (layout.settings known).Perm given.settings
  unread : ∀ entry ∈ layout.loose, known entry.1 = []
  writable : ∀ table ∈ layout.loose :: layout.sections.map Prod.snd, ∀ entry ∈ table,
    TomlValues.Writable (depthLimit - 1) entry.2

theorem Assigns.writes {given : Given} {layout : Layout} (assigns : Assigns given layout) :
    Writes given layout.lines where
  settings := by
    rw [settings_lines]
    exact assigns.settings
  apart := apart_lines known assigns.unread

theorem fits_singleton (name : String) : Fits [name] :=
  ⟨List.cons_ne_nil _ _, Nat.one_lt_succ_succ 78⟩

theorem Assigns.fit {given : Given} {layout : Layout} (assigns : Assigns given layout) :
    ∀ line ∈ layout.lines, Fit line := by
  obtain ⟨loose, sections⟩ := List.forall_mem_cons.mp assigns.writable
  have pairs {table : Entries}
      (writable : ∀ entry ∈ table, TomlValues.Writable (depthLimit - 1) entry.2) :
      ∀ line ∈ linesOf table, Fit line :=
    List.forall_mem_map.mpr fun entry member =>
      .pair (fits_singleton entry.1) (writable entry member)
  refine List.forall_mem_append.mpr ⟨pairs loose, ?_⟩
  intro line member
  obtain ⟨part, inside, member⟩ := List.mem_flatMap.mp member
  rcases List.mem_cons.mp member with rfl | member
  · exact .table (fits_singleton part.1)
  · exact pairs (sections part.2 (List.mem_map_of_mem inside)) line member

theorem Assigns.deserializes {given : Given} {layout : Layout} (assigns : Assigns given layout) :
    Config.ofDocument? (write layout.lines) = some given.config := by
  rw [assigns.writes.deserializes.written assigns.fit, ofLines?_others assigns.writes.arranged,
    ofLines?_lines assigns.proper]
  rfl

/-! Every choice of values has such a layout. -/

private theorem flatMap_filter_perm {κ τ : Type} [DecidableEq κ] (key : τ → κ) {names : List κ}
    (distinct : names.Nodup) {items : List τ} (covered : ∀ item ∈ items, key item ∈ names) :
    (names.flatMap fun name => items.filter fun item => key item = name).Perm items := by
  induction names generalizing items with
  | nil =>
    cases items with
    | nil => exact List.Perm.refl []
    | cons item items => exact absurd (covered item List.mem_cons_self) List.not_mem_nil
  | cons name names ih =>
    obtain ⟨absent, distinct⟩ := List.nodup_cons.mp distinct
    have remain :
        ∀ item ∈ items.filter fun item => !decide (key item = name), key item ∈ names := by
      intro item member
      obtain ⟨inside, other⟩ := List.mem_filter.mp member
      exact (List.mem_cons.mp (covered item inside)).resolve_left (by simpa using other)
    have same : (names.flatMap fun name => items.filter fun item => key item = name) =
        names.flatMap fun second =>
          (items.filter fun item => !decide (key item = name)).filter fun item =>
            key item = second := by
      refine List.flatMap_congr fun second member => ?_
      rw [List.filter_filter]
      refine List.filter_congr fun item _ => ?_
      have ne : second ≠ name := fun equal => absent (equal ▸ member)
      by_cases equal : key item = second
      · simp [equal, ne]
      · simp [equal]
    rw [List.flatMap_cons, same]
    exact ((ih distinct remain).append_left _).trans (List.filter_append_perm _ items)

def tableOf (given : Given) (name : String) : Entries :=
  (given.settings.filter fun setting => setting.1.1 = name).map fun setting =>
    (setting.1.2, setting.2)

def layoutOf (given : Given) : Layout where
  loose := []
  sections := (schema.map Prod.fst).map fun name => (name, tableOf given name)

private theorem name_of_mem_settings {given : Given} {setting : (String × String) × Value}
    (member : setting ∈ given.settings) : setting.1.1 ∈ schema.map Prod.fst := by
  have each : ∀ field ∈ schema.flatMap fun part => part.2.map fun key => (part.1, key),
      field.1 ∈ schema.map Prod.fst := by decide
  rw [← names_fields given] at each
  exact each setting.1 (List.mem_map_of_mem (mem_fields member))

private theorem writable_of_mem_settings {given : Given} {setting : (String × String) × Value}
    (member : setting ∈ given.settings) : TomlValues.Writable (depthLimit - 1) setting.2 := by
  have text (given : Option String) : ∀ value ∈ given.map Value.text,
      TomlValues.Writable (depthLimit - 1) value := by
    rintro value inside
    obtain ⟨content, _, rfl⟩ := Option.mem_map.mp inside
    exact .text content
  have flag (given : Option Bool) : ∀ value ∈ given.map Value.boolean,
      TomlValues.Writable (depthLimit - 1) value := by
    rintro value inside
    obtain ⟨flag, _, rfl⟩ := Option.mem_map.mp inside
    exact .boolean flag
  have size (given : Option Size) : ∀ value ∈ given.map sizeValue,
      TomlValues.Writable (depthLimit - 1) value := by
    rintro value inside
    obtain ⟨n, _, rfl⟩ := Option.mem_map.mp inside
    have small := n.isLt
    exact .integer (by simp only [isStorable, Bool.and_eq_true, decide_eq_true_eq]; omega)
  have each : ∀ field ∈ given.fields, ∀ value ∈ field.2,
      TomlValues.Writable (depthLimit - 1) value := by
    simp only [Given.fields, List.forall_mem_cons]
    exact ⟨text _, size _, text _, flag _, text _, size _, size _, flag _, size _, text _, flag _,
      text _, List.forall_mem_nil _⟩
  exact each _ (mem_fields member) setting.2 rfl

private theorem nodup_tableOf (given : Given) (name : String) :
    ((tableOf given name).map Prod.fst).Nodup := by
  have keys : (tableOf given name).map Prod.fst =
      ((given.settings.filter fun setting => setting.1.1 = name).map Prod.fst).map Prod.snd := by
    simp [tableOf, Function.comp_def]
  have sublist := List.filter_sublist (p := fun setting => setting.1.1 = name) (l := given.settings)
  rw [keys]
  refine List.Nodup.map_on ?_ ((nodup_settings given).sublist (sublist.map Prod.fst))
  have named : ∀ field ∈ (given.settings.filter fun setting => setting.1.1 = name).map Prod.fst,
      field.1 = name :=
    List.forall_mem_map.mpr fun _ member => of_decide_eq_true (List.mem_filter.mp member).2
  intro first firstMember second secondMember same
  exact Prod.ext ((named first firstMember).trans (named second secondMember).symm) same

private theorem settings_tableOf (given : Given) (name : String) :
    (tableOf given name).filterMap (setting known name) =
      given.settings.filter fun setting => setting.1.1 = name := by
  have all : ∀ item ∈ given.settings.filter fun setting => setting.1.1 = name,
      setting known name (item.1.2, item.2) = some item := by
    intro item member
    obtain ⟨inside, own⟩ := List.mem_filter.mp member
    obtain rfl := of_decide_eq_true own
    exact if_pos (known_of_mem (mem_fields inside))
  rw [tableOf, List.filterMap_map]
  exact (List.filterMap_congr all).trans List.filterMap_some

private theorem assigns_layoutOf (given : Given) : Assigns given (layoutOf given) where
  proper := by
    have names : (layoutOf given).entries.map Prod.fst = schema.map Prod.fst := by
      simp [Layout.entries, layoutOf, Function.comp_def]
    refine ⟨?_, List.forall_mem_map.mpr fun name _ => nodup_tableOf given name⟩
    rw [names]
    decide
  settings := by
    have tables : (layoutOf given).settings known = (schema.map Prod.fst).flatMap fun name =>
        given.settings.filter fun setting => setting.1.1 = name := by
      simp only [Layout.settings, layoutOf, List.flatMap_map, settings_tableOf]
    have distinct : (schema.map Prod.fst).Nodup := by decide
    rw [tables]
    exact flatMap_filter_perm _ distinct fun _ => name_of_mem_settings
  unread := fun _ member => absurd member List.not_mem_nil
  writable := by
    refine List.forall_mem_cons.mpr ⟨fun _ member => absurd member List.not_mem_nil, ?_⟩
    simp only [layoutOf, List.map_map, List.forall_mem_map]
    intro part _ entry member
    obtain ⟨setting, inside, rfl⟩ := List.mem_map.mp member
    exact writable_of_mem_settings (List.mem_of_mem_filter inside)

/-- A configuration has the given values and otherwise the documented defaults, for any values, any
order of sections and keys and any others among them. Documents laid out section by section are all
accepted. Those with more involved tables of other programs are if they are without the given
values. -/
theorem given_or_default (given : Given) :
    (∃ layout, Assigns given layout) ∧
      (∀ layout, Assigns given layout →
        Config.ofDocument? (write layout.lines) = some given.config) ∧
      ∀ doc, Writes given doc → Deserializes given doc :=
  ⟨⟨layoutOf given, assigns_layoutOf given⟩, fun _ => Assigns.deserializes,
    fun _ => Writes.deserializes⟩

/-! A document with keys, sections and tables of other programs between its settings. -/

namespace Sample

def given : Given where
  pasteEnabled := some false
  maxBodySize := some 0x7fffffffffffffff
  logLevel := some "\"all\"\\\n\x00"

def doc : List Line := [
  .pair ["title"] (.text "notes"),
  .pair ["owner", "since"] (.moment "1979-05-27 07:32:00Z"),
  .table ["observability"],
  .pair ["sink", "kind"] (.text "file"),
  .pair ["log_level"] (.text "\"all\"\\\n\x00"),
  .table ["paste", "mirror"],
  .pair ["enabled"] (.boolean true),
  .table ["paste"],
  .pair ["enabled"] (.boolean false),
  .element ["jobs"],
  .pair ["timeout_secs"] (.float "1e3"),
  .element ["jobs"],
  .table ["security"],
  .pair ["a key"] (.array [.integer (-1), .table .inline [("b", .boolean true)]]),
  .pair ["max_body_size"] (.integer 0x7fffffffffffffff),
  .table ["store"]]

theorem writes : Writes given doc where
  settings := (List.perm_append_singleton (("observability", "log_level"), _) _).symm
  apart := by
    decide

private theorem since_writable (depth : Nat) :
    TomlValues.Writable depth (.moment "1979-05-27 07:32:00Z") := by
  have whole : TomlScalars.OneWord ("1979-05-27".toList ++ ' ' :: '0' :: "7:32:00Z".toList) :=
    .dated rfl (List.all_eq_true.mp rfl) (List.all_eq_true.mp rfl)
  exact .moment ⟨whole, rfl⟩

theorem fit : ∀ line ∈ doc, Fit line := by
  have fits (path : List String) (nonempty : path ≠ []) (short : path.length ≤ 2) : Fits path :=
    ⟨nonempty, Nat.lt_of_le_of_lt short (by decide)⟩
  have timeout : TomlScalars.Bare "1e3".toList (.float "1e3") :=
    ⟨.plain (List.all_eq_true.mp rfl), rfl⟩
  have items : ∀ item ∈ [Value.integer (-1), .table .inline [("b", .boolean true)]],
      TomlValues.Writable 78 item := by
    simp only [List.forall_mem_cons]
    refine ⟨.integer rfl, .table (by decide) ?_, List.forall_mem_nil _⟩
    exact List.forall_mem_singleton.mpr (.boolean true)
  simp only [doc, List.forall_mem_cons]
  refine ⟨.pair ?_ (.text _), .pair ?_ (since_writable _), .table ?_, .pair ?_ (.text _),
    .pair ?_ (.text _), .table ?_, .pair ?_ (.boolean true), .table ?_, .pair ?_ (.boolean false),
    .element ?_, .pair ?_ (.float timeout), .element ?_, .table ?_, .pair ?_ (.array items),
    .pair ?_ (.integer rfl), .table ?_, List.forall_mem_nil _⟩
  all_goals exact fits _ (List.cons_ne_nil _ _) (by decide)

theorem sample_read : Config.ofDocument? (write doc) = some {
    paste := { enabled := false }
    security := { maxBodySize := 0x7fffffffffffffff }
    observability := { logLevel := "\"all\"\\\n\x00" } } := by
  have accepted : (ofLines? (others known [] doc)).isSome := by decide
  obtain ⟨entries, built⟩ := Option.isSome_iff_exists.mp accepted
  rw [((given_or_default given).2.2 doc writes).written fit, built]
  rfl

end Sample

end NoteBoard.Proofs.ConfigDocuments
