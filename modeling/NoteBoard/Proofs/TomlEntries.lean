import Mathlib.Data.List.Basic
import Mathlib.Data.List.Nodup
import Mathlib.Tactic.Common
import NoteBoard.Toml.Document

/-! Tables as maps from keys. Every way to change a table is brought to one form: it looks at the
value of one key and puts another there, and a path of keys does this in one table inside the
other. -/

namespace NoteBoard.Proofs.TomlEntries
open Toml

theorem lookup_cons (entry : String × Value) (entries : Entries) (key : String) :
    (entry :: entries).lookup key = if key = entry.1 then some entry.2 else entries.lookup key := by
  rw [List.lookup_cons]
  by_cases equal : key = entry.1
  · simp [equal]
  · simp [equal, beq_eq_false_iff_ne.mpr equal]

theorem lookup_put_self (key : String) (value : Value) (entries : Entries) :
    (entries.put key value).lookup key = some value := by
  induction entries with
  | nil => simp [Entries.put]
  | cons entry entries ih =>
    unfold Entries.put
    split
    next => simp
    next other => rw [lookup_cons, if_neg (Ne.symm other), ih]

theorem lookup_put_of_ne {key other : String} (ne : other ≠ key) (value : Value)
    (entries : Entries) : (entries.put key value).lookup other = entries.lookup other := by
  induction entries with
  | nil => simp [Entries.put, lookup_cons, ne]
  | cons entry entries ih =>
    unfold Entries.put
    split
    next equal => rw [lookup_cons, lookup_cons, if_neg ne, if_neg (equal ▸ ne)]
    next => rw [lookup_cons, lookup_cons, ih]

theorem lookup_eq_none {key : String} {entries : Entries} :
    entries.lookup key = none ↔ key ∉ entries.map Prod.fst := by
  rw [List.lookup_eq_none_iff]
  simp only [List.mem_map, not_exists, not_and, bne_iff_ne]
  exact forall₂_congr fun entry _ => ne_comm

theorem put_of_lookup_none {key : String} {entries : Entries} (absent : entries.lookup key = none)
    (value : Value) : entries.put key value = entries ++ [(key, value)] := by
  induction entries with
  | nil => rfl
  | cons entry entries ih =>
    rw [lookup_cons] at absent
    unfold Entries.put
    split at absent
    next => cases absent
    next other => rw [if_neg (Ne.symm other), ih absent, List.cons_append]

theorem put_of_lookup {key : String} {value : Value} {entries : Entries}
    (found : entries.lookup key = some value) : entries.put key value = entries := by
  induction entries with
  | nil => cases found
  | cons entry entries ih =>
    rw [lookup_cons] at found
    unfold Entries.put
    split at found
    next equal =>
      obtain rfl := Option.some.inj found
      rw [if_pos equal.symm, equal]
    next other => rw [if_neg (Ne.symm other), ih found]

theorem put_put (key : String) (first second : Value) (entries : Entries) :
    (entries.put key first).put key second = entries.put key second := by
  induction entries with
  | nil => simp [Entries.put]
  | cons entry entries ih =>
    by_cases equal : entry.1 = key
    · simp [Entries.put, equal]
    · simp [Entries.put, equal, ih]

theorem foldlM_fresh? (start : Entries) {entries : Entries}
    (distinct : ((start ++ entries).map Prod.fst).Nodup) :
    entries.foldlM (fun table entry => table.fresh? entry.1 entry.2) start =
      some (start ++ entries) := by
  induction entries generalizing start with
  | nil => rw [List.append_nil]; rfl
  | cons entry entries ih =>
    rw [List.append_cons] at distinct
    have absent : start.lookup entry.1 = none := by
      rw [List.map_append, List.map_append, List.append_assoc] at distinct
      rw [lookup_eq_none]
      intro member
      exact (List.nodup_append.mp distinct).2.2 _ member _ (by simp) rfl
    have taken : start.fresh? entry.1 entry.2 = some (start ++ [entry]) := by
      unfold Entries.fresh?
      rw [absent, if_neg (by simp), put_of_lookup_none absent]
    rw [List.foldlM_cons, taken, Option.bind_eq_bind, Option.bind_some, ih _ distinct,
      ← List.append_cons]

/-! Changes under one key. -/

/-- Puts another value under a key, or refuses, by what stands there. -/
def updateAt (key : String) (next : Option Value → Option Value) (table : Entries) :
    Option Entries :=
  (next (table.lookup key)).map fun value => table.put key value

def takeFresh (value : Value) : Option Value → Option Value
  | none => some value
  | some _ => none

theorem fresh?_eq (key : String) (value : Value) (table : Entries) :
    table.fresh? key value = updateAt key (takeFresh value) table := by
  unfold Entries.fresh? updateAt
  cases table.lookup key <;> rfl

/-- What becomes of a value where a path goes on into the table it is, or brings one into being. -/
def descend (approach : Approach) (change : Origin → Entries → Option Entries) :
    Option Value → Option Value
  | none => (change approach.brings []).map (Value.table approach.brings)
  | some (.table origin inner) =>
    if approach.enters origin then (change origin inner).map (Value.table origin) else none
  | some (.tables elements) =>
    elements.getLast?.bind fun last =>
      (change .header last).map fun inner => .tables (elements.dropLast ++ [inner])
  | some _ => none

theorem alter?_cons (approach : Approach) (change : Origin → Entries → Option Entries)
    (key : String) (path : List String) (origin : Origin) (table : Entries) :
    table.alter? approach change (key :: path) origin =
      updateAt key (descend approach fun origin inner => inner.alter? approach change path origin)
        table := by
  rw [Entries.alter?, updateAt]
  cases table.lookup key with
  | none => rw [descend, Option.map_map]; rfl
  | some value =>
    cases value with
    | table origin inner =>
      simp only [descend]
      by_cases entered : approach.enters origin = true
      · rw [if_pos entered, if_pos entered, Option.map_map]
        rfl
      · rw [if_neg entered, if_neg entered, Option.map_none]
    | tables elements =>
      simp only [descend]
      cases elements.getLast? with
      | none => rfl
      | some last => simp only [Option.bind_some, Option.map_map, Function.comp_def]
    | text | integer | float | boolean | moment | array => rfl

def walk (approach : Approach) (change : String → Origin → Entries → Option Entries) :
    List String → Origin → Entries → Option Entries
  | [], _, _ => none
  | [key], origin, table => change key origin table
  | key :: path, _, table => updateAt key (descend approach (walk approach change path)) table

theorem alter?_eq_walk (approach : Approach)
    (change : String → Origin → Entries → Option Entries) (path : List String) (origin : Origin)
    (table : Entries) :
    (path.getLast?.bind fun key => table.alter? approach (change key) path.dropLast origin) =
      walk approach change path origin table := by
  induction path generalizing origin table with
  | nil => rfl
  | cons key path ih =>
    cases path with
    | nil => rfl
    | cons second path =>
      have inside : walk approach change (second :: path) =
          fun origin inner => inner.alter? approach
            (change ((second :: path).getLast (List.cons_ne_nil _ _))) (second :: path).dropLast
            origin := by
        funext origin inner
        rw [← ih, List.getLast?_eq_some_getLast (List.cons_ne_nil _ _), Option.bind_some]
      rw [List.getLast?_cons_cons, List.getLast?_eq_some_getLast (List.cons_ne_nil _ _),
        Option.bind_some, List.dropLast_cons_cons, alter?_cons, walk, inside]
      exact List.cons_ne_nil _ _

/-! The changes that lines make. -/

def openNext : Option Value → Option Value
  | none => some (.table .header [])
  | some (.table .implied inner) => some (.table .header inner)
  | some _ => none

theorem openTable?_eq (path : List String) (table : Entries) :
    table.openTable? path =
      walk .byHeader (fun key _ => updateAt key openNext) path .header table := by
  rw [← alter?_eq_walk]
  have change (key : String) : updateAt key openNext = fun parent =>
      match parent.lookup key with
      | none => some (parent.put key (.table .header []))
      | some (.table .implied inner) => some (parent.put key (.table .header inner))
      | some _ => none := by
    funext parent
    unfold updateAt
    cases parent.lookup key with
    | none => rfl
    | some value =>
      cases value with
      | table origin inner => cases origin <;> rfl
      | _ => rfl
  simp only [change]
  rfl

def elementNext : Option Value → Option Value
  | none => some (.tables [[]])
  | some (.tables elements) => some (.tables (elements ++ [[]]))
  | some _ => none

theorem addElement?_eq (path : List String) (table : Entries) :
    table.addElement? path =
      walk .byHeader (fun key _ => updateAt key elementNext) path .header table := by
  rw [← alter?_eq_walk]
  have change (key : String) : updateAt key elementNext = fun parent =>
      match parent.lookup key with
      | none => some (parent.put key (.tables [[]]))
      | some (.tables elements) => some (parent.put key (.tables (elements ++ [[]])))
      | some _ => none := by
    funext parent
    unfold updateAt
    cases parent.lookup key with
    | none => rfl
    | some value => cases value <;> rfl
  simp only [change]
  rfl

def pairChange (value : Value) (key : String) (origin : Origin) (table : Entries) :
    Option Entries :=
  if origin = .dotted then updateAt key (takeFresh value) table else none

theorem addPair?_singleton (key : String) (value : Value) (table : Entries) :
    table.addPair? [key] value = updateAt key (takeFresh value) table :=
  fresh?_eq key value table

theorem addPair?_cons (key second : String) (path : List String) (value : Value) (table : Entries) :
    table.addPair? (key :: second :: path) value =
      walk .byDottedKey (pairChange value) (key :: second :: path) .header table := by
  have change (last : String) : pairChange value last = fun origin inner =>
      if origin = .dotted then inner.fresh? last value else none := by
    funext origin inner
    rw [pairChange, fresh?_eq]
  rw [← alter?_eq_walk]
  simp only [change]
  rfl

/-! Which keys a line reaches. -/

/-- A change that reads and changes the value of one key only. -/
def Touches (key : String) (change : Origin → Entries → Option Entries) : Prop :=
  ∃ next : Origin → Option Value → Option Value,
    ∀ origin table, change origin table = updateAt key (next origin) table

private theorem touches_alter? (approach : Approach) (change : Origin → Entries → Option Entries)
    (key : String) (path : List String) :
    Touches key fun origin table => table.alter? approach change (key :: path) origin :=
  ⟨_, alter?_cons approach change key path⟩

theorem touches_walk (approach : Approach)
    {change : String → Origin → Entries → Option Entries}
    (last : ∀ key, Touches key (change key)) (key : String) (path : List String) :
    Touches key (walk approach change (key :: path)) := by
  cases path with
  | nil => exact last key
  | cons second path =>
    exact ⟨fun _ => descend approach (walk approach change (second :: path)), fun _ _ => rfl⟩

theorem touches_pairChange (value : Value) (key : String) : Touches key (pairChange value key) := by
  refine ⟨fun origin old => if origin = .dotted then takeFresh value old else none, ?_⟩
  intro origin table
  cases origin <;> rfl

private theorem touches_addPair? (key : String) (path : List String) (value : Value) :
    Touches key fun _ table => table.addPair? (key :: path) value := by
  cases path with
  | nil => exact ⟨_, fun _ => addPair?_singleton key value⟩
  | cons second path =>
    obtain ⟨next, equal⟩ := touches_walk .byDottedKey (touches_pairChange value) key
      (second :: path)
    refine ⟨fun _ => next .header, fun _ table => ?_⟩
    exact (addPair?_cons key second path value table).trans (equal .header table)

/-- A change of the whole document at an address: of the value under its first key, and where that
is a table, only of what stands under the second key in it. -/
inductive Acts : List String → (Entries → Option Entries) → Prop where
  | never {address : List String} {change : Entries → Option Entries}
      (fails : ∀ table, change table = none) : Acts address change
  | here {key : String} {change : Entries → Option Entries} {next : Option Value → Option Value}
      (equal : ∀ table, change table = updateAt key next table) : Acts [key] change
  | inside {key second : String} {path : List String} {approach : Approach}
      {inner : Origin → Entries → Option Entries} {change : Entries → Option Entries}
      (touches : Touches second inner)
      (equal : ∀ table, change table = updateAt key (descend approach inner) table) :
      Acts (key :: second :: path) change

theorem acts_walk {approach : Approach} {change : String → Origin → Entries → Option Entries}
    (last : ∀ key, Touches key (change key)) (path : List String) :
    Acts path (walk approach change path .header) := by
  cases path with
  | nil => exact .never fun _ => rfl
  | cons key path =>
    cases path with
    | nil =>
      obtain ⟨next, equal⟩ := last key
      exact .here (equal .header)
    | cons second path => exact .inside (touches_walk approach last second path) fun _ => rfl

private theorem acts_addPair? (path : List String) (value : Value) :
    Acts path fun table => table.addPair? path value := by
  cases path with
  | nil => exact .never fun _ => rfl
  | cons key path =>
    cases path with
    | nil => exact .here (addPair?_singleton key value)
    | cons second path =>
      exact .inside (touches_walk .byDottedKey (touches_pairChange value) second path)
        (addPair?_cons key second path value)

theorem acts_pair (header path : List String) (value : Value) :
    Acts (header ++ path) fun entries =>
      entries.alter? .byHeader (fun _ table => table.addPair? path value) header .header := by
  cases header with
  | nil => exact acts_addPair? path value
  | cons key header =>
    have equal :=
      alter?_cons .byHeader (fun _ table => table.addPair? path value) key header .header
    cases header with
    | nil =>
      cases path with
      | nil => exact .here equal
      | cons second path => exact .inside (touches_addPair? second path value) equal
    | cons second header => exact .inside (touches_alter? _ _ second header) equal

end NoteBoard.Proofs.TomlEntries
