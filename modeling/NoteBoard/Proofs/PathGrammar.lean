import Mathlib.Data.List.DropRight
import Mathlib.Data.List.Nodup
import Mathlib.Data.List.Perm.Basic
import Mathlib.Data.Nat.Digits.Defs
import NoteBoard.Proofs.RouteGrammar

/-! The table of routes against the grammar of paths. A path is settled by what it holds up to its
last slash: no two entries share that part, so at most one entry answers for a path and their
order does not count. -/

namespace NoteBoard.Proofs.PathGrammar
open RouteGrammar

/-- The number that decimal digits write, the last one counting ones. -/
def value (digits : List Char) : Nat :=
  Nat.ofDigits 10 (digits.reverse.map fun digit => digit.toNat - '0'.toNat)

def noteLeads : List (String × NoteAction) := [
  ("/Note/", .view),
  ("/EditNote/", .edit),
  ("/DeleteNote/", .delete),
  ("/PasteBinNote/", .paste),
  ("/SaveNote/", .save),
  ("/ConfirmDeleteNote/", .confirmDelete),
  ("/ConfirmPasteBinNote/", .confirmPaste)]

def filterLeads : List (String × SearchField) := [
  ("/TitleFilter/", .title),
  ("/TextFilter/", .text),
  ("/BothFilter/", .both)]

/-- The grammar of paths: what each leads to. -/
inductive Leads : String → Except RouteError Route → Prop where
  | index : Leads "/" (.ok .index)
  | addNote : Leads "/AddNote/" (.ok .addNote)
  | newNote : Leads "/NewNote/" (.ok .newNote)
  | note {lead : String} {action : NoteAction} {digits : List Char}
      (named : (lead, action) ∈ noteLeads) (written : Digits digits)
      (within : value digits ≤ 2 ^ 63 - 1) :
      Leads (lead ++ String.ofList digits) (.ok (.note action (value digits)))
  | tooLarge {lead : String} {action : NoteAction} {digits : List Char}
      (named : (lead, action) ∈ noteLeads) (written : Digits digits)
      (beyond : 2 ^ 63 - 1 < value digits) :
      Leads (lead ++ String.ofList digits) (.error (.invalidId (String.ofList digits)))
  | filter {lead : String} {field : SearchField} {needle : String}
      (named : (lead, field) ∈ filterLeads) (nonempty : needle ≠ "")
      (allowed : ∀ c ∈ needle.toList, c.isAlphanum = true ∨ c = ' ') :
      Leads (lead ++ needle) (.ok (.filter field needle))

theorem digitsValue_eq_value (digits : List Char) : Text.digitsValue digits = value digits := by
  unfold value
  rw [Nat.ofDigits_eq_foldr, List.foldr_map, List.foldr_reverse]
  unfold Text.digitsValue
  congr 1
  funext number digit
  rw [Nat.add_comm]
  rfl

theorem mem_noteLeads (action : NoteAction) : (action.lead, action) ∈ noteLeads := by
  cases action <;> decide

theorem mem_filterLeads (field : SearchField) : (field.lead, field) ∈ filterLeads := by
  cases field <;> decide

theorem lead_of_mem_noteLeads {lead : String} {action : NoteAction}
    (named : (lead, action) ∈ noteLeads) : lead = action.lead ∧ action ∈ NoteAction.all := by
  have listed : ∀ entry ∈ noteLeads, entry.1 = entry.2.lead ∧ entry.2 ∈ NoteAction.all := by decide
  exact listed _ named

private theorem lead_of_mem_filterLeads {lead : String} {field : SearchField}
    (named : (lead, field) ∈ filterLeads) : lead = field.lead ∧ field ∈ SearchField.all := by
  have listed : ∀ entry ∈ filterLeads, entry.1 = entry.2.lead ∧ entry.2 ∈ SearchField.all := by
    decide
  exact listed _ named

theorem isFilterChar_iff (c : Char) : isFilterChar c = true ↔ c.isAlphanum = true ∨ c = ' ' := by
  simp [isFilterChar]

theorem noteId_eq (digits : List Char) : noteId (String.ofList digits) =
    if value digits ≤ 2 ^ 63 - 1 then .ok (value digits : Int)
    else .error (.invalidId (String.ofList digits)) := by
  have bound : ((value digits : Int) ≤ Note.largestId) = (value digits ≤ 2 ^ 63 - 1) := by
    unfold Note.largestId
    rw [eq_iff_iff]
    omega
  unfold noteId
  rw [String.toList_ofList, digitsValue_eq_value]
  simp only [bound]

theorem note_mem {action : NoteAction} (listed : action ∈ NoteAction.all) :
    RouteEntry.note action.lead action ∈ RouteTable.board :=
  List.mem_append_left _ (List.mem_append_right _ (List.mem_map_of_mem listed))

private theorem filter_mem {field : SearchField} (listed : field ∈ SearchField.all) :
    RouteEntry.filter field.lead field ∈ RouteTable.board :=
  List.mem_append_right _ (List.mem_map_of_mem listed)

theorem leads_of_find? {entry : RouteEntry} {path : String} {answer : Except RouteError Route}
    (member : entry ∈ RouteTable.board) (found : entry.find? path = some answer) :
    Leads path answer := by
  simp only [RouteTable.board, List.mem_append, List.mem_map] at member
  rcases member with (fixed | ⟨action, _, rfl⟩) | ⟨field, _, rfl⟩
  · simp only [List.mem_cons, List.not_mem_nil, or_false] at fixed
    rcases fixed with rfl | rfl | rfl
    all_goals
      obtain ⟨rfl, rfl⟩ := fixed_find? found
      constructor
  · obtain ⟨digits, written, rfl, rfl⟩ := note_find? found
    rw [noteId_eq]
    split
    next within => exact .note (mem_noteLeads action) written within
    next beyond => exact .tooLarge (mem_noteLeads action) written (Nat.lt_of_not_le beyond)
  · obtain ⟨needle, nonempty, allowed, rfl, rfl⟩ := filter_find? found
    exact .filter (mem_filterLeads field) nonempty fun c member =>
      (isFilterChar_iff c).mp (allowed c member)

theorem find?_append (entry : RouteEntry) (rest : List Char) :
    entry.find? (entry.pattern.lead ++ String.ofList rest) =
      (entry.pattern.slot.capture? rest).map fun capture => entry.resolve capture.text := by
  unfold RouteEntry.find? PathPattern.capture? PathPattern.slotText?
  rw [String.toList_append, String.toList_ofList,
    List.isPrefixOf?_eq_some_iff_append_eq.mpr rfl, Option.bind_some]

theorem fixed_answers (path : String) (route : Route) :
    (RouteEntry.fixed path route).find? path = some (.ok route) := by
  have found := find?_append (.fixed path route) []
  rw [String.ofList_nil, String.append_empty] at found
  exact found

theorem note_answers (action : NoteAction) {digits : List Char} (written : Digits digits) :
    (RouteEntry.note action.lead action).find? (action.lead ++ String.ofList digits) =
      some ((noteId (String.ofList digits)).map (.note action)) := by
  have taken : Slot.digits.capture? digits = some (.digits (String.ofList digits)) := by
    refine if_pos ?_
    rw [List.isEmpty_eq_false_iff.mpr written.1, List.all_eq_true.mpr written.2]
    rfl
  have found := find?_append (.note action.lead action) digits
  change _ = (Slot.digits.capture? digits).map _ at found
  rw [taken] at found
  exact found

private theorem filter_answers (field : SearchField) {needle : String} (nonempty : needle ≠ "")
    (allowed : ∀ c ∈ needle.toList, isFilterChar c = true) :
    (RouteEntry.filter field.lead field).find? (field.lead ++ needle) =
      some (.ok (.filter field needle)) := by
  have filled : needle.toList ≠ [] := mt String.toList_eq_nil_iff.mp nonempty
  have taken : Slot.filterText.capture? needle.toList = some (.filterText needle) := by
    unfold Slot.capture?
    dsimp only
    rw [List.isEmpty_eq_false_iff.mpr filled, List.all_eq_true.mpr allowed, String.ofList_toList]
    rfl
  have found := find?_append (.filter field.lead field) needle.toList
  change _ = (Slot.filterText.capture? needle.toList).map _ at found
  rw [taken, String.ofList_toList] at found
  exact found

theorem find?_of_leads {path : String} {answer : Except RouteError Route}
    (leads : Leads path answer) :
    ∃ entry ∈ RouteTable.board, entry.find? path = some answer := by
  cases leads with
  | index => exact ⟨_, by simp [RouteTable.board], fixed_answers "/" .index⟩
  | addNote => exact ⟨_, by simp [RouteTable.board], fixed_answers "/AddNote/" .addNote⟩
  | newNote => exact ⟨_, by simp [RouteTable.board], fixed_answers "/NewNote/" .newNote⟩
  | @note _ action digits named written within =>
    obtain ⟨rfl, listed⟩ := lead_of_mem_noteLeads named
    refine ⟨.note action.lead action, note_mem listed, ?_⟩
    rw [note_answers action written, noteId_eq, if_pos within]
    rfl
  | @tooLarge _ action digits named written beyond =>
    obtain ⟨rfl, listed⟩ := lead_of_mem_noteLeads named
    refine ⟨.note action.lead action, note_mem listed, ?_⟩
    rw [note_answers action written, noteId_eq, if_neg (Nat.not_le_of_lt beyond)]
    rfl
  | @filter _ field _ named nonempty allowed =>
    obtain ⟨rfl, listed⟩ := lead_of_mem_filterLeads named
    exact ⟨.filter field.lead field, filter_mem listed, filter_answers field nonempty
      fun c member => (isFilterChar_iff c).mpr (allowed c member)⟩

def folder (path : String) : List Char := path.toList.rdropWhile (· ≠ '/')

private theorem folder_append {lead rest : List Char} (ends : lead.getLast? = some '/')
    (slashless : '/' ∉ rest) : folder (String.ofList (lead ++ rest)) = lead := by
  obtain ⟨front, rfl⟩ := List.getLast?_eq_some_iff.mp ends
  have all : ∀ c ∈ rest, decide (c ≠ '/') = true := by
    rintro c member
    rw [decide_eq_true_eq]
    rintro rfl
    exact slashless member
  unfold folder
  rw [String.toList_ofList, List.rdropWhile, List.reverse_append, List.dropWhile_append,
    List.dropWhile_eq_nil_iff.mpr (by simpa using all)]
  simp

private theorem slashless_of_capture? {slot : Slot} {rest : List Char} {capture : Capture}
    (taken : slot.capture? rest = some capture) : '/' ∉ rest := by
  intro slash
  cases slot with
  | exact =>
    cases rest with
    | nil => cases slash
    | cons => cases taken
  | digits | filterText =>
    unfold Slot.capture? at taken
    dsimp only at taken
    split at taken
    next written =>
      rw [Bool.and_eq_true, List.all_eq_true] at written
      exact absurd (written.2 '/' slash) (by decide)
    next => cases taken

private theorem lead_ends :
    ∀ entry ∈ RouteTable.board, entry.pattern.lead.toList.getLast? = some '/' := by
  decide +kernel

theorem leads_nodup : (RouteTable.board.map fun entry => entry.pattern.lead).Nodup := by
  decide +kernel

theorem folder_of_find? {entry : RouteEntry} {path : String} {answer : Except RouteError Route}
    (member : entry ∈ RouteTable.board) (found : entry.find? path = some answer) :
    folder path = entry.pattern.lead.toList := by
  obtain ⟨rest, capture, rfl, taken, _⟩ := find?_eq_some found
  have read := folder_append (lead_ends entry member) (slashless_of_capture? taken)
  rwa [String.ofList_append, String.ofList_toList] at read

/-- No two entries of the table answer for one path. -/
theorem find?_unique {first second : RouteEntry} {path : String}
    {answer other : Except RouteError Route} (left : first ∈ RouteTable.board)
    (right : second ∈ RouteTable.board) (found : first.find? path = some answer)
    (again : second.find? path = some other) : first = second := by
  have same : first.pattern.lead = second.pattern.lead :=
    String.toList_inj.mp ((folder_of_find? left found).symm.trans (folder_of_find? right again))
  exact List.inj_on_of_nodup_map leads_nodup left right same

/-- A table answers for a path as any of its entries does, if no two entries differ on it. -/
theorem find_eq_iff {table : RouteTable} {path : String}
    (single : ∀ first ∈ table, ∀ second ∈ table, ∀ answer other,
      first.find? path = some answer → second.find? path = some other → first = second)
    (answer : Except RouteError Route) :
    table.find path = answer ↔ (∃ entry ∈ table, entry.find? path = some answer) ∨
      answer = .error (.notFound path) ∧ ∀ entry ∈ table, entry.find? path = none := by
  unfold RouteTable.find
  cases decided : table.findSome? (·.find? path) with
  | none =>
    rw [List.findSome?_eq_none_iff] at decided
    rw [Option.getD_none]
    constructor
    · rintro rfl
      exact Or.inr ⟨rfl, decided⟩
    · rintro (⟨entry, member, found⟩ | ⟨rfl, _⟩)
      · rw [decided entry member] at found
        cases found
      · rfl
  | some result =>
    obtain ⟨entry, member, found⟩ := List.exists_of_findSome?_eq_some decided
    rw [Option.getD_some]
    constructor
    · rintro rfl
      exact Or.inl ⟨entry, member, found⟩
    · rintro (⟨other, listed, again⟩ | ⟨_, silent⟩)
      · have same := single entry member other listed result answer found again
        rw [same, again] at found
        exact (Option.some.inj found).symm
      · rw [silent entry member] at found
        cases found

theorem find_of_leads {path : String} {answer : Except RouteError Route}
    (leads : Leads path answer) : RouteTable.board.find path = answer := by
  apply (find_eq_iff (fun _ left _ right _ _ => find?_unique left right) answer).mpr
  exact Or.inl (find?_of_leads leads)

theorem find_of_not_leads {path : String} (nowhere : ∀ answer, ¬ Leads path answer) :
    RouteTable.board.find path = .error (.notFound path) := by
  apply (find_eq_iff (fun _ left _ right _ _ => find?_unique left right) _).mpr
  refine Or.inr ⟨rfl, ?_⟩
  intro entry member
  apply Option.eq_none_iff_forall_ne_some.mpr
  intro answer found
  exact nowhere answer (leads_of_find? member found)

/-- Every path leads where the grammar says, and where the grammar says nothing no route is found.
No two entries of the table answer for one path, so their order does not count. -/
theorem find_follows_grammar (path : String) :
    (∀ answer, RouteTable.board.find path = answer ↔
      Leads path answer ∨ answer = .error (.notFound path) ∧ ¬ ∃ other, Leads path other) ∧
    (RouteTable.board.Pairwise fun first second =>
      first.find? path = none ∨ second.find? path = none) ∧
    ∀ table : RouteTable, table.Perm RouteTable.board →
      table.find path = RouteTable.board.find path := by
  have single (first : RouteEntry) (left : first ∈ RouteTable.board) (second : RouteEntry)
      (right : second ∈ RouteTable.board) (answer other : Except RouteError Route)
      (found : first.find? path = some answer) (again : second.find? path = some other) :
      first = second := find?_unique left right found again
  refine ⟨?_, ?_, ?_⟩
  · intro answer
    have grammar (answer : Except RouteError Route) :
        (∃ entry ∈ RouteTable.board, entry.find? path = some answer) ↔ Leads path answer :=
      ⟨fun ⟨_, member, found⟩ => leads_of_find? member found, find?_of_leads⟩
    rw [find_eq_iff single, grammar]
    refine or_congr_right (and_congr_right fun _ => ?_)
    constructor
    · rintro silent ⟨other, leads⟩
      obtain ⟨entry, member, found⟩ := find?_of_leads leads
      rw [silent entry member] at found
      cases found
    · intro nowhere entry member
      rw [Option.eq_none_iff_forall_ne_some]
      intro other found
      exact nowhere ⟨other, leads_of_find? member found⟩
  · refine (List.Nodup.of_map _ leads_nodup).pairwise_of_forall_ne ?_
    intro first left second right different
    by_contra both
    rw [not_or, ← ne_eq, ← ne_eq, Option.ne_none_iff_exists', Option.ne_none_iff_exists'] at both
    obtain ⟨⟨answer, found⟩, other, again⟩ := both
    exact different (find?_unique left right found again)
  · intro table perm
    have members (entry : RouteEntry) : entry ∈ table ↔ entry ∈ RouteTable.board := perm.mem_iff
    rw [find_eq_iff (by simpa only [members] using single)]
    simp only [members]
    exact (find_eq_iff single _).mp rfl

end NoteBoard.Proofs.PathGrammar
