import NoteBoard.Proofs.FormPage

/-! What a user writes into an escaped field does not reach the structure of a page. An escaped text
has none of the characters that make tags and attributes, and no ampersand but those that start an
entity. -/

namespace NoteBoard.Proofs.PageStructure
open EntityRoundTrip FormPage Html NotePage

def structural : List Char := ['<', '>', '"', '\'']

def skeleton (page : String) : List Char := page.toList.filter (· ∈ structural)

/-- Each ampersand starts one of the five entities. -/
def EntitiesOnly (text : List Char) : Prop :=
  ∀ before after, text = before ++ '&' :: after → ∃ entry ∈ entities, entry.2 <+: '&' :: after

/-- A document without what its escaped fields hold. -/
def blank (document : Document) : Document :=
  document.map fun
    | .escaped _ => .escaped ""
    | .fixed template => .fixed template
    | .ready markup => .ready markup

theorem skeleton_escape (text : String) : skeleton (escape text) = [] := by
  have escaped : structural.all
      (fun c => c ∈ entities.map Prod.fst ∧ ∀ entry ∈ entities, c ∉ entry.2) = true := by decide
  refine List.filter_eq_nil_iff.mpr fun c member listed => ?_
  have known := List.all_eq_true.mp escaped c (of_decide_eq_true listed)
  obtain ⟨special, clean⟩ := of_decide_eq_true known
  exact not_mem_escape special clean text member

theorem skeleton_render (document : Document) :
    skeleton document.render = document.flatMap fun fragment => skeleton fragment.render := by
  unfold skeleton
  rw [toList_render, List.filter_flatMap]

/-- The structure of a page is that of its template and of the texts it shows as markup. -/
theorem skeleton_blank (document : Document) :
    skeleton (blank document).render = skeleton document.render := by
  rw [skeleton_render, skeleton_render, blank, List.flatMap_map]
  congr 1
  funext fragment
  cases fragment with
  | escaped text => exact (skeleton_escape "").trans (skeleton_escape text).symm
  | fixed template => rfl
  | ready markup => rfl

theorem skeleton_congr {first second : Document} (same : blank first = blank second) :
    skeleton first.render = skeleton second.render := by
  rw [← skeleton_blank first, ← skeleton_blank second, same]

theorem blank_append (first second : Document) :
    blank (first ++ second) = blank first ++ blank second :=
  List.map_append

private theorem blank_rows (entries : List (Note × String)) :
    blank ((entries.map fun entry => { entry.1 with title := entry.2 }).flatMap Page.row) =
      blank ((entries.map Prod.fst).flatMap Page.row) := by
  induction entries with
  | nil => rfl
  | cons entry entries ih =>
    rw [List.map_cons, List.map_cons, List.flatMap_cons, List.flatMap_cons, blank_append, blank_append,
      ih]
    rfl

private theorem blank_index (entries : List (Note × String)) (filtered : Bool) :
    blank (Page.index (entries.map fun entry => { entry.1 with title := entry.2 }) filtered) =
      blank (Page.index (entries.map Prod.fst) filtered) := by
  unfold Page.index Page.layout
  simp only [blank_append, blank_rows, List.isEmpty_map]

private theorem entitiesOnly_append {first second : List Char} (left : EntitiesOnly first)
    (right : EntitiesOnly second) : EntitiesOnly (first ++ second) := by
  intro before after equal
  rcases List.append_eq_append_iff.mp equal with ⟨middle, _, rest⟩ | ⟨middle, front, rest⟩
  · exact right middle after rest
  · cases middle with
    | nil => exact right [] after rest.symm
    | cons c middle =>
      obtain ⟨rfl, rfl⟩ := List.cons.inj rest
      obtain ⟨entry, listed, starts⟩ := left before middle front
      exact ⟨entry, listed, starts.trans (List.prefix_append ('&' :: middle) second)⟩

theorem entitiesOnly_of_not_mem {text : List Char} (absent : '&' ∉ text) : EntitiesOnly text := by
  rintro before after rfl
  simp at absent

theorem entitiesOnly_flatMap {α : Type} {items : List α} {write : α → List Char}
    (each : ∀ item ∈ items, EntitiesOnly (write item)) : EntitiesOnly (items.flatMap write) := by
  induction items with
  | nil => exact entitiesOnly_of_not_mem List.not_mem_nil
  | cons item items ih =>
    obtain ⟨own, others⟩ := List.forall_mem_cons.mp each
    rw [List.flatMap_cons]
    exact entitiesOnly_append own (ih others)

private theorem entitiesOnly_entity {entry : Char × List Char} (listed : entry ∈ entities) :
    EntitiesOnly entry.2 := by
  have once : ∀ entry ∈ entities, entry.2.head? = some '&' ∧ '&' ∉ entry.2.tail := by decide
  obtain ⟨first, single⟩ := once entry listed
  intro before after equal
  cases before with
  | nil => exact ⟨entry, listed, equal ▸ List.prefix_refl _⟩
  | cons c before =>
    rw [equal] at single
    simp at single

private theorem entitiesOnly_escapeChar (c : Char) : EntitiesOnly (escapeChar c) := by
  by_cases special : c ∈ entities.map Prod.fst
  · unfold escapeChar
    split
    next entity found =>
      obtain ⟨before, after, equal, _⟩ := List.lookup_eq_some_iff.mp found
      have listed : (c, entity) ∈ entities := by simp [equal]
      exact entitiesOnly_entity listed
    next missing =>
      obtain ⟨entry, listed, rfl⟩ := List.mem_map.mp special
      exact absurd (List.lookup_eq_none_iff.mp missing entry listed) (by simp)
  · rw [escapeChar_of_not_mem special]
    apply entitiesOnly_of_not_mem
    rw [List.mem_singleton]
    rintro rfl
    exact special (by decide)

theorem entitiesOnly_escape (text : String) : EntitiesOnly (escape text).toList := by
  rw [escape, String.toList_ofList, escapeChars_eq_flatMap]
  exact entitiesOnly_flatMap fun c _ => entitiesOnly_escapeChar c

def plain : Fragment → Bool
  | .fixed template => '&' ∉ template.toList
  | .escaped _ => true
  | .ready _ => false

theorem entitiesOnly_render {document : Document} (plainly : document.all plain = true) :
    EntitiesOnly document.render.toList := by
  rw [toList_render]
  refine entitiesOnly_flatMap fun fragment member => ?_
  have own := List.all_eq_true.mp plainly fragment member
  cases fragment with
  | fixed template => exact entitiesOnly_of_not_mem (of_decide_eq_true own)
  | escaped text => exact entitiesOnly_escape text
  | ready markup => cases own

private theorem plain_path (action : NoteAction) (id : Int) :
    plain (.fixed (action.path id)) = true := by
  refine decide_eq_true (not_mem_path (by decide) (by decide) ?_ id)
  cases action <;> decide

private theorem plain_number (n : Nat) : plain (.fixed (toString n)) = true :=
  decide_eq_true (not_mem_toString (by decide) n)

set_option maxRecDepth 10000 in
private theorem plain_forms (note : Note) (token : Token) :
    (Page.add token).all plain = true ∧ (Page.edit note token).all plain = true := by
  simp only [Page.add, Page.edit, Page.layout, Page.style, Page.noteFields, Page.tokenFields,
    List.cons_append, List.nil_append, List.all_cons, List.all_nil, plain_path, plain_number]
  simp only [plain, Token.idField, Token.secretField]
  repeat rw [String.toList_ofList]
  decide +kernel

/-- Pages whose inputs differ only in escaped fields have the same structure: in the titles of the
notes that are listed, shown or asked about, in title, text and secret of a form, in the secret of a
blank form. In the forms every ampersand starts an entity. -/
theorem escaped_fields_keep_structure :
    (∀ (entries : List (Note × String)) (filtered : Bool),
      skeleton
          (Page.index (entries.map fun entry => { entry.1 with title := entry.2 }) filtered).render =
        skeleton (Page.index (entries.map Prod.fst) filtered).render) ∧
    (∀ (note : Note) (title : String),
      skeleton (Page.note { note with title }).render = skeleton (Page.note note).render) ∧
    (∀ (note : Note) (title : String) (token : Token),
      skeleton (Page.delete { note with title } token).render =
          skeleton (Page.delete note token).render ∧
        skeleton (Page.paste { note with title } token).render =
          skeleton (Page.paste note token).render) ∧
    (∀ (note : Note) (token : Token) (title text secret : String),
      skeleton (Page.edit { note with title, text } { token with secret }).render =
        skeleton (Page.edit note token).render) ∧
    (∀ (token : Token) (secret : String),
      skeleton (Page.add { token with secret }).render = skeleton (Page.add token).render) ∧
    ∀ (note : Note) (token : Token),
      EntitiesOnly (Page.edit note token).render.toList ∧
        EntitiesOnly (Page.add token).render.toList := by
  refine ⟨?_, ?_, ?_, ?_, ?_, ?_⟩
  · intro entries filtered
    exact skeleton_congr (blank_index entries filtered)
  · intro note title
    exact skeleton_congr rfl
  · intro note title token
    exact ⟨skeleton_congr rfl, skeleton_congr rfl⟩
  · intro note token title text secret
    exact skeleton_congr rfl
  · intro token secret
    exact skeleton_congr rfl
  · intro note token
    obtain ⟨add, edit⟩ := plain_forms note token
    exact ⟨entitiesOnly_render edit, entitiesOnly_render add⟩

end NoteBoard.Proofs.PageStructure
