import NoteBoard.Proofs.TomlEntries
import NoteBoard.Proofs.TomlScalars

/-! Values read back from their written form. A value is read up to what follows it, so those inside
an array or a table are read one by one. -/

namespace NoteBoard.Proofs.TomlValues
open Toml TomlKeys TomlScalars

/-- A value that can be written and holds others at most so deep. -/
inductive Writable : Nat → Value → Prop where
  | text {depth : Nat} (content : String) : Writable depth (.text content)
  | integer {depth : Nat} {number : Int} (storable : isStorable number = true) :
      Writable depth (.integer number)
  | float {depth : Nat} {literal : String} (bare : Bare literal.toList (.float literal)) :
      Writable depth (.float literal)
  | boolean {depth : Nat} (value : Bool) : Writable depth (.boolean value)
  | moment {depth : Nat} {literal : String} (bare : Bare literal.toList (.moment literal)) :
      Writable depth (.moment literal)
  | array {depth : Nat} {items : List Value} (each : ∀ item ∈ items, Writable depth item) :
      Writable (depth + 1) (.array items)
  | table {depth : Nat} {entries : Entries} (distinct : (entries.map Prod.fst).Nodup)
      (each : ∀ entry ∈ entries, Writable depth entry.2) :
      Writable (depth + 1) (.table .inline entries)

def isSolid (c : Char) : Bool :=
  !isSpace c && c != '\n' && c != '#' && c != ']' && c != '\x7d'

theorem isSolid_of_isWordChar {c : Char} (fits : isWordChar c = true) : isSolid c = true := by
  have other := fun sign => ne_of_kind fits sign
  simp [isSolid, isSpace, other ' ' (by decide), other '\t' (by decide), other '\n' (by decide),
    other '#' (by decide), other ']' (by decide), other '\x7d' (by decide)]

theorem start_of_writable {depth : Nat} {value : Value} (writable : Writable depth value) :
    ∃ c rest, value.write = c :: rest ∧ isSolid c = true := by
  cases writable with
  | text content => exact ⟨'"', _, by rw [Value.write, writeText]; rfl, by decide⟩
  | integer storable =>
    obtain ⟨c, rest, equal, fits⟩ := (bare_integer storable).start
    exact ⟨c, rest, by rw [Value.write, equal], isSolid_of_isWordChar fits⟩
  | float bare | moment bare =>
    obtain ⟨c, rest, equal, fits⟩ := bare.start
    exact ⟨c, rest, by rw [Value.write, equal], isSolid_of_isWordChar fits⟩
  | boolean value =>
    obtain ⟨c, rest, equal, fits⟩ := (bare_boolean value).start
    exact ⟨c, rest, by rw [Value.write, equal], isSolid_of_isWordChar fits⟩
  | array each => exact ⟨'[', _, by rw [Value.write], by decide⟩
  | table distinct each => exact ⟨'\x7b', _, by rw [Value.write], by decide⟩

private theorem skipLines?_solid {c : Char} (solid : isSolid c = true) (rest : List Char) :
    skipLines? false (c :: rest) = some (c :: rest) := by
  simp only [isSolid, Bool.and_eq_true, Bool.not_eq_true', bne_iff_ne] at solid
  obtain ⟨⟨⟨⟨space, newline⟩, comment⟩, _⟩, _⟩ := solid
  simp [skipLines?, space, newline, comment]

/-- A reader reads a value from its written form. -/
def Reads (item : Reader Value) (value : Value) : Prop :=
  ∀ rest, Ends rest → item (value.write ++ rest) = some (value, rest)

theorem items?_item {item : Reader Value} {value : Value} {depth : Nat}
    (writable : Writable depth value) (reads : Reads item value) (limit : Nat) {rest : List Char}
    (ends : Ends rest) :
    items? item (limit + 1) (value.write ++ rest) = (do
      match ← skipLines? false rest with
      | ',' :: rest =>
        let (values, rest) ← items? item limit rest
        return (value :: values, rest)
      | ']' :: rest => return ([value], rest)
      | _ => none) := by
  have read := reads rest ends
  obtain ⟨c, tail, start, solid⟩ := start_of_writable writable
  rw [start, List.cons_append] at read ⊢
  rw [items?, skipLines?_solid solid]
  simp only [Option.bind_eq_bind, Option.bind_some]
  split
  next equal =>
    obtain ⟨rfl, _⟩ := List.cons.inj equal
    cases solid
  next =>
    rw [read]
    rfl

private theorem items?_written {depth : Nat} {item : Reader Value} {items : List Value}
    (writable : ∀ value ∈ items, Writable depth value) (reads : ∀ value ∈ items, Reads item value)
    {limit : Nat} (enough : items.length < limit) (rest : List Char) :
    items? item limit (writeItems items ++ rest) = some (items, rest) := by
  induction items generalizing limit with
  | nil =>
    obtain ⟨limit, rfl⟩ := Nat.exists_eq_succ_of_ne_zero (Nat.ne_of_gt enough)
    rfl
  | cons value items ih =>
    obtain ⟨limit, rfl⟩ := Nat.exists_eq_succ_of_ne_zero (Nat.ne_of_gt (Nat.zero_lt_of_lt enough))
    obtain ⟨here, others⟩ := List.forall_mem_cons.mp writable
    obtain ⟨read, later⟩ := List.forall_mem_cons.mp reads
    cases items with
    | nil =>
      rw [writeItems, List.append_assoc, List.singleton_append,
        items?_item here read limit (ends_cons (by decide) rest)]
      rfl
    | cons second items =>
      have tail := ih others later (Nat.lt_of_succ_lt_succ enough)
      have passed (rest : List Char) : skipLines? false (',' :: rest) = some (',' :: rest) := rfl
      rw [writeItems, List.append_assoc, List.cons_append,
        items?_item here read limit (ends_cons (by decide) _), passed]
      · simp only [Option.bind_eq_bind, Option.bind_some, tail]
        rfl
      · exact List.cons_ne_nil _ _

/-! Pairs. -/

theorem pair?_written {item : Reader Value} {value : Value} {depth : Nat}
    (writable : Writable depth value) (reads : Reads item value) {path : List String}
    (nonempty : path ≠ []) (short : path.length < depthLimit) {rest : List Char}
    (ends : Ends rest) :
    pair? item (writePath path ++ " = ".toList ++ value.write ++ rest) =
      some ((path, value), rest) := by
  have key : EndsKey (" = ".toList ++ (value.write ++ rest)) := endsKey_cons rfl _
  have equals : skipSpace (" = ".toList ++ (value.write ++ rest)) =
      '=' :: ' ' :: (value.write ++ rest) := rfl
  have read : path? (writePath path ++ " = ".toList ++ value.write ++ rest) =
      some (path, '=' :: ' ' :: (value.write ++ rest)) := by
    unfold path?
    rw [List.append_assoc, List.append_assoc,
      keyPath?_written nonempty (Nat.le_sub_one_of_lt short) key, equals]
    rw [equals]
    simp
  have blank : skipSpace (' ' :: (value.write ++ rest)) = value.write ++ rest := by
    obtain ⟨c, tail, start, solid⟩ := start_of_writable writable
    rw [start]
    exact skipSpace_cons (isSpace_of_kind solid rfl rfl) _
  unfold pair?
  simp only [read, Option.bind_eq_bind, Option.bind_some, blank, reads rest ends]
  rfl

def pairOf (entry : String × Value) : List String × Value := ([entry.1], entry.2)

theorem pair?_writeEntry {item : Reader Value} {entry : String × Value} {depth : Nat}
    (writable : Writable depth entry.2) (reads : Reads item entry.2) {rest : List Char}
    (ends : Ends rest) : pair? item (writeEntry entry ++ rest) = some (pairOf entry, rest) := by
  obtain ⟨key, value⟩ := entry
  have written : writeEntry (key, value) = writePath [key] ++ " = ".toList ++ value.write := by
    rw [writeEntry, writePath, List.map_singleton, List.intercalate_singleton, List.append_assoc]
  have short : [key].length < depthLimit := Nat.one_lt_succ_succ 78
  rw [written]
  exact pair?_written writable reads (List.cons_ne_nil _ _) short ends

private theorem writeEntry_start (entry : String × Value) :
    ∃ c rest, writeEntry entry = c :: rest ∧ startsKey c = true := by
  obtain ⟨key, value⟩ := entry
  obtain ⟨c, rest, equal, starts⟩ := writeKey_start key
  exact ⟨c, _, by rw [writeEntry, equal]; rfl, starts⟩

private theorem writeEntries_start {entries : Entries} (nonempty : entries ≠ []) :
    ∃ c rest, writeEntries entries = c :: rest ∧ startsKey c = true := by
  cases entries with
  | nil => exact absurd rfl nonempty
  | cons entry entries =>
    obtain ⟨c, rest, equal, starts⟩ := writeEntry_start entry
    cases entries with
    | nil => exact ⟨c, _, by rw [writeEntries, equal]; rfl, starts⟩
    | cons second entries =>
      refine ⟨c, rest ++ ',' :: writeEntries (second :: entries), ?_, starts⟩
      rw [writeEntries, equal]
      · rfl
      · exact List.cons_ne_nil _ _

/-! Each item takes up at least the mark behind it. -/

private theorem length_writeItems (items : List Value) :
    items.length ≤ (writeItems items).length := by
  induction items with
  | nil => exact Nat.zero_le _
  | cons item items ih =>
    cases items with
    | nil => simp [writeItems]
    | cons second items =>
      rw [writeItems]
      · simp only [List.length_append, List.length_cons] at ih ⊢
        omega
      · exact List.cons_ne_nil _ _

private theorem length_writeEntries (entries : Entries) :
    entries.length ≤ (writeEntries entries).length := by
  induction entries with
  | nil => exact Nat.zero_le _
  | cons entry entries ih =>
    cases entries with
    | nil => simp [writeEntries]
    | cons second entries =>
      rw [writeEntries]
      · simp only [List.length_append, List.length_cons] at ih ⊢
        omega
      · exact List.cons_ne_nil _ _

private theorem pairs?_written {depth : Nat} {item : Reader Value} {entries : Entries}
    (nonempty : entries ≠ []) (writable : ∀ entry ∈ entries, Writable depth entry.2)
    (reads : ∀ entry ∈ entries, Reads item entry.2) {limit : Nat}
    (enough : entries.length ≤ limit) (rest : List Char) :
    pairs? item limit (writeEntries entries ++ rest) = some (entries.map pairOf, rest) := by
  induction entries generalizing limit with
  | nil => exact absurd rfl nonempty
  | cons entry entries ih =>
    obtain ⟨limit, rfl⟩ := Nat.exists_eq_succ_of_ne_zero (Nat.ne_of_gt (Nat.zero_lt_of_lt enough))
    obtain ⟨here, others⟩ := List.forall_mem_cons.mp writable
    obtain ⟨read, later⟩ := List.forall_mem_cons.mp reads
    cases entries with
    | nil =>
      have passed : skipSpace ('\x7d' :: rest) = '\x7d' :: rest := rfl
      rw [writeEntries, List.append_assoc, List.singleton_append, pairs?,
        pair?_writeEntry here read (ends_cons (by decide) rest)]
      simp only [Option.bind_eq_bind, Option.bind_some, passed]
      rfl
    | cons second entries =>
      have tail := ih (List.cons_ne_nil _ _) others later (Nat.le_of_succ_le_succ enough)
      rw [writeEntries, List.append_assoc, List.cons_append, pairs?,
        pair?_writeEntry here read (ends_cons (by decide) _)]
      · simp only [Option.bind_eq_bind, Option.bind_some]
        rw [skipSpace_cons (by decide)]
        simp only [tail, Option.bind_some]
        rfl
      · exact List.cons_ne_nil _ _

private theorem tableOfPairs?_map {entries : Entries} (distinct : (entries.map Prod.fst).Nodup) :
    tableOfPairs? (entries.map pairOf) = some (.table .inline entries) := by
  have taken := TomlEntries.foldlM_fresh? [] distinct
  unfold tableOfPairs?
  rw [List.foldlM_map]
  change (List.foldlM (fun table entry => Entries.fresh? entry.1 entry.2 table) [] entries).map
    _ = _
  rw [taken]
  rfl

private theorem inlineTable?_written {depth : Nat} {item : Reader Value} {entries : Entries}
    (distinct : (entries.map Prod.fst).Nodup) (writable : ∀ entry ∈ entries, Writable depth entry.2)
    (reads : ∀ entry ∈ entries, Reads item entry.2) (rest : List Char) :
    inlineTable? item (writeEntries entries ++ rest) = some (.table .inline entries, rest) := by
  by_cases nonempty : entries = []
  · subst nonempty
    rfl
  · have enough : entries.length ≤ (writeEntries entries ++ rest).length := by
      rw [List.length_append]
      exact Nat.le_add_right_of_le (length_writeEntries entries)
    have read := pairs?_written nonempty writable reads enough rest
    obtain ⟨c, tail, start, starts⟩ := writeEntries_start nonempty
    rw [start, List.cons_append] at read ⊢
    unfold inlineTable?
    rw [skipSpace_cons (isSpace_of_kind starts (by decide) (by decide))]
    split
    next equal =>
      obtain ⟨rfl, _⟩ := List.cons.inj equal
      cases starts
    next =>
      simp only [read, Option.bind_eq_bind, Option.bind_some, tableOfPairs?_map distinct]
      rfl

theorem value?_written {depth : Nat} {value : Value} (writable : Writable depth value) :
    Reads (value? depth) value := by
  induction writable with
  | text content =>
    intro rest ends
    rw [Value.write]
    exact value?_writeText _ content ends
  | integer storable =>
    intro rest ends
    rw [Value.write]
    exact (bare_integer storable).value? _ ends
  | float bare | moment bare =>
    intro rest ends
    rw [Value.write]
    exact bare.value? _ ends
  | boolean value =>
    intro rest ends
    rw [Value.write]
    exact (bare_boolean value).value? _ ends
  | array each ih =>
    rename_i depth items
    intro rest ends
    have enough : items.length < ('[' :: (writeItems items ++ rest)).length := by
      have least := length_writeItems items
      simp only [List.length_cons, List.length_append]
      omega
    have read := items?_written each ih enough rest
    rw [Value.write, List.cons_append]
    change (items? (value? depth) _ (writeItems items ++ rest)).map _ = _
    rw [read]
    rfl
  | table distinct each ih =>
    rename_i depth entries
    intro rest ends
    rw [Value.write, List.cons_append]
    exact inlineTable?_written distinct each ih rest

/-! Nothing of a value is written with a control character. -/

private theorem visible_writeItems {items : List Value}
    (each : ∀ item ∈ items, ∀ c ∈ item.write, isVisible c = true) :
    ∀ c ∈ writeItems items, isVisible c = true := by
  induction items with
  | nil => exact List.all_eq_true.mp rfl
  | cons item items ih =>
    obtain ⟨here, others⟩ := List.forall_mem_cons.mp each
    cases items with
    | nil =>
      rw [writeItems]
      exact List.forall_mem_append.mpr ⟨here, List.all_eq_true.mp rfl⟩
    | cons second items =>
      rw [writeItems]
      · exact List.forall_mem_append.mpr ⟨here, List.forall_mem_cons.mpr ⟨by decide, ih others⟩⟩
      · exact List.cons_ne_nil _ _

private theorem visible_writeEntry {entry : String × Value}
    (value : ∀ c ∈ entry.2.write, isVisible c = true) :
    ∀ c ∈ writeEntry entry, isVisible c = true := by
  have equals : ∀ c ∈ " = ".toList, isVisible c = true := List.all_eq_true.mp rfl
  obtain ⟨key, _⟩ := entry
  rw [writeEntry]
  exact List.forall_mem_append.mpr
    ⟨List.forall_mem_append.mpr ⟨visible_writeKey key, equals⟩, value⟩

private theorem visible_writeEntries {entries : Entries}
    (each : ∀ entry ∈ entries, ∀ c ∈ entry.2.write, isVisible c = true) :
    ∀ c ∈ writeEntries entries, isVisible c = true := by
  induction entries with
  | nil => exact List.all_eq_true.mp rfl
  | cons entry entries ih =>
    obtain ⟨value, others⟩ := List.forall_mem_cons.mp each
    have here := visible_writeEntry value
    cases entries with
    | nil =>
      rw [writeEntries]
      exact List.forall_mem_append.mpr ⟨here, List.all_eq_true.mp rfl⟩
    | cons second entries =>
      rw [writeEntries]
      · exact List.forall_mem_append.mpr ⟨here, List.forall_mem_cons.mpr ⟨by decide, ih others⟩⟩
      · exact List.cons_ne_nil _ _

theorem visible_write {depth : Nat} {value : Value} (writable : Writable depth value) :
    ∀ c ∈ value.write, isVisible c = true := by
  induction writable with
  | text content =>
    rw [Value.write]
    exact visible_writeText content.toList
  | integer storable =>
    rw [Value.write]
    exact (bare_integer storable).whole.visible
  | float bare | moment bare =>
    rw [Value.write]
    exact bare.whole.visible
  | boolean value =>
    rw [Value.write]
    exact (bare_boolean value).whole.visible
  | array each ih =>
    rw [Value.write]
    exact List.forall_mem_cons.mpr ⟨by decide, visible_writeItems ih⟩
  | table distinct each ih =>
    rw [Value.write]
    exact List.forall_mem_cons.mpr ⟨by decide, visible_writeEntries ih⟩

end NoteBoard.Proofs.TomlValues
