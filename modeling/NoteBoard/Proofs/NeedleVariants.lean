import NoteBoard.Proofs.NeedleSearch

/-! Searches for needles that are related. A needle may have signs of a pattern in it, and what it
matches is then more than itself; still a part of it matches wherever it does, and the case of its
letters makes no difference. -/

namespace NoteBoard.Proofs.NeedleVariants
open AsciiLetters Like LikePattern NeedleSearch NoteListing

def Alike (first second : List Char) : Prop := first.map Char.toLower = second.map Char.toLower

instance (first second : List Char) : Decidable (Alike first second) :=
  inferInstanceAs (Decidable (_ = _))

section alike
variable {first second : List Char}

private theorem same_eq {p q : Char} (alike : p.toLower = q.toLower) : same p = same q := by
  by_cases equal : p = q
  · rw [equal]
  · obtain ⟨ascii, other⟩ := ascii_of_other_case alike equal
    unfold same
    rw [seen_of_ascii ascii, seen_of_ascii other, alike]

private theorem matches_alike_iff (alike : Alike first second) (text : List Char) :
    Matches first text ↔ Matches second text := by
  induction first generalizing second text with
  | nil => rw [List.map_eq_nil_iff.mp alike.symm]
  | cons p first ih =>
    obtain ⟨q, second, rfl, letter, rest⟩ := List.map_eq_cons_iff.mp alike.symm
    have many : p = '%' ↔ q = '%' := eq_sign_iff letter.symm (by decide)
    have any : p = '_' ↔ q = '_' := eq_sign_iff letter.symm (by decide)
    rw [Matches, Matches, same_eq letter]
    simp only [many, any, ih rest.symm]

private theorem encodeChar_length_eq {p q : Char} (alike : p.toLower = q.toLower) :
    (Utf8.encodeChar p).length = (Utf8.encodeChar q).length := by
  by_cases equal : p = q
  · rw [equal]
  · obtain ⟨ascii, other⟩ := ascii_of_other_case alike equal
    simp [Utf8.encodeChar, ascii, other]

private theorem encode_length_eq (alike : Alike first second) :
    (Utf8.encode first).length = (Utf8.encode second).length := by
  induction first generalizing second with
  | nil => rw [List.map_eq_nil_iff.mp alike.symm]
  | cons p first ih =>
    obtain ⟨q, second, rfl, letter, rest⟩ := List.map_eq_cons_iff.mp alike.symm
    have later : (Utf8.encode first).length = (Utf8.encode second).length := ih rest.symm
    unfold Utf8.encode at later ⊢
    rw [List.flatMap_cons, List.flatMap_cons, List.length_append, List.length_append,
      encodeChar_length_eq letter.symm, later]

private theorem not_mem_nul_of_alike (alike : Alike first second) (whole : '\x00' ∉ second) :
    '\x00' ∉ first := by
  intro member
  have lower : Char.toLower '\x00' ∈ second.map Char.toLower :=
    alike ▸ List.mem_map_of_mem member
  obtain ⟨c, also, same⟩ := List.mem_map.mp lower
  rw [eq_of_toLower same (by decide)] at also
  exact whole also

end alike

section part
variable {text : List Char}

private theorem later_of_matches_append {front pattern : List Char}
    (fits : Matches (front ++ pattern) text) : Later pattern text := by
  induction front generalizing text with
  | nil => exact ⟨text, List.suffix_refl text, fits⟩
  | cons p front ih =>
    rw [List.cons_append, Matches] at fits
    split at fits
    · obtain ⟨rest, suffix, fits⟩ := fits
      obtain ⟨last, inner, fits⟩ := ih fits
      exact ⟨last, inner.trans suffix, fits⟩
    · obtain ⟨c, rest, rfl, _, fits⟩ := fits
      obtain ⟨last, inner, fits⟩ := ih fits
      exact ⟨last, inner.trans (List.suffix_cons c rest), fits⟩

private theorem matches_of_matches_append {pattern back : List Char}
    (fits : Matches (pattern ++ back) text) : Matches (pattern ++ ['%']) text := by
  induction pattern generalizing text with
  | nil => exact (matches_many_iff [] text).mpr ⟨[], List.nil_suffix, rfl⟩
  | cons p pattern ih =>
    rw [List.cons_append, Matches] at fits ⊢
    split at fits
    next many =>
      obtain ⟨rest, suffix, fits⟩ := fits
      rw [if_pos many]
      exact ⟨rest, suffix, ih fits⟩
    next plain =>
      obtain ⟨c, rest, written, here, fits⟩ := fits
      rw [if_neg plain]
      exact ⟨c, rest, written, here, ih fits⟩

private theorem later_part {part needle : List Char} (inner : part <:+: needle)
    (later : Later (needle ++ ['%']) text) : Later (part ++ ['%']) text := by
  obtain ⟨front, back, rfl⟩ := inner
  obtain ⟨rest, suffix, fits⟩ := later
  rw [List.append_assoc, List.append_assoc] at fits
  obtain ⟨last, ending, fits⟩ := later_of_matches_append fits
  exact ⟨last, ending.trans suffix, matches_of_matches_append fits⟩

private theorem encode_length_le {part needle : List Char} (inner : part <:+: needle) :
    (Utf8.encode part).length ≤ (Utf8.encode needle).length := by
  obtain ⟨front, back, rfl⟩ := inner
  unfold Utf8.encode
  rw [List.flatMap_append, List.flatMap_append, List.length_append, List.length_append]
  omega

end part

theorem finds_mono {first second : String}
    (implies : ∀ text, like (anywhere first.toList) text = true →
      like (anywhere second.toList) text = true)
    {field : SearchField} {note : Note} (found : Store.finds field first note = true) :
    Store.finds field second note = true := by
  cases field with
  | title | text => exact implies _ found
  | both =>
    rw [Store.finds, Bool.or_eq_true] at found ⊢
    exact found.imp (implies _) (implies _)

/-- What a search for a needle lists in each field, beside the whole listing and what searches for
the needle in other letters and for parts of it list. -/
structure Listings (store : Store) (needle : String) (listed : SearchField → List Note) : Prop where
  found : ∀ field, store.search field needle = .ok (listed field)
  inOrder : ∀ field, (listed field).Sublist store.all
  once : ∀ field, ((listed field).map Note.id).Nodup
  either : ∀ note, note ∈ listed .both ↔ note ∈ listed .title ∨ note ∈ listed .text
  otherCase : ∀ other : String, Alike other.toList needle.toList →
    ∀ field, store.search field other = .ok (listed field)
  part : ∀ part : String, part.toList <:+: needle.toList →
    ∀ field, ∃ more, store.search field part = .ok more ∧ listed field ⊆ more
  everything : ∀ field, store.search field "" = .ok store.all

section search
variable (store : Store) {needle : String} (whole : '\x00' ∉ needle.toList)
  (short : (Utf8.encode needle.toList).length ≤ 49998)

private theorem ids_once : (store.all.map Note.id).Nodup := by
  have same : store.all.map Note.id = store.listed.map Note.id := by
    unfold Store.all
    rw [List.map_map]
    rfl
  exact same ▸ ids_listed_once store

private theorem search_everything (field : SearchField) :
    store.search field "" = .ok store.all := by
  have any (text : List Char) : like (anywhere "".toList) text = true :=
    (like_anywhere_iff_later List.not_mem_nil text).mpr ⟨_, List.suffix_refl _,
      (matches_many_iff [] _).mpr ⟨[], List.nil_suffix, rfl⟩⟩
  rw [search_eq store field (isTooLong_anywhere (by decide))]
  refine congrArg Except.ok (List.filter_eq_self.mpr fun note _ => ?_)
  cases field with
  | title | text | both => simp only [Store.finds, any, Bool.or_self]

include whole short

private theorem search_part {part : String} (inner : part.toList <:+: needle.toList)
    (field : SearchField) :
    ∃ more, store.search field part = .ok more ∧
      store.all.filter (Store.finds field needle) ⊆ more := by
  have less : (Utf8.encode part.toList).length ≤ 49998 := (encode_length_le inner).trans short
  refine ⟨_, search_eq store field (isTooLong_anywhere less), fun note shown => ?_⟩
  obtain ⟨member, found⟩ := List.mem_filter.mp shown
  refine List.mem_filter.mpr ⟨member, finds_mono (fun text => ?_) found⟩
  rw [like_anywhere_iff_later whole, like_anywhere_iff_later (mt (inner.subset ·) whole)]
  exact later_part inner

private theorem search_other_case {other : String} (alike : Alike other.toList needle.toList)
    (field : SearchField) :
    store.search field other = .ok (store.all.filter (Store.finds field needle)) := by
  have bytes : (Utf8.encode other.toList).length ≤ 49998 := (encode_length_eq alike).trans_le short
  have same (text : List Char) : like (anywhere other.toList) text = true ↔
      like (anywhere needle.toList) text = true := by
    rw [like_anywhere_iff_later whole, like_anywhere_iff_later (not_mem_nul_of_alike alike whole)]
    have longer : Alike (other.toList ++ ['%']) (needle.toList ++ ['%']) := by
      unfold Alike
      rw [List.map_append, List.map_append, alike]
    exact exists_congr fun rest => and_congr_right fun _ => matches_alike_iff longer rest
  rw [search_eq store field (isTooLong_anywhere bytes)]
  refine congrArg Except.ok (List.filter_congr fun note _ => Bool.eq_iff_iff.mpr ⟨?_, ?_⟩)
  · exact finds_mono fun text => (same text).mp
  · exact finds_mono fun text => (same text).mpr

/-- A search in both fields lists the notes that a search in one of them lists, each once and in the
order of the whole listing. The case of letters in the needle makes no difference, a part of it is
found wherever the needle is, and nothing at all is found everywhere. -/
theorem search_compares_needles : ∃ listed, Listings store needle listed := by
  refine ⟨fun field => store.all.filter (Store.finds field needle), ?_, ?_, ?_, ?_, ?_, ?_, ?_⟩
  · exact fun field => search_eq store field (isTooLong_anywhere short)
  · exact fun field => List.filter_sublist
  · exact fun field => (ids_once store).sublist (List.filter_sublist.map _)
  · intro note
    simp only [List.mem_filter, ← and_or_left, Store.finds, Bool.or_eq_true]
  · exact fun other alike field => search_other_case store whole short alike field
  · exact fun part inner field => search_part store whole short inner field
  · exact search_everything store

end search

def priced : Store := ((Store.empty.add 0 "50% off" "").2.add 0 "sum" "500 on").2

private theorem all_priced :
    priced.all = [⟨2, "sum", "500 on", 0, 0⟩, ⟨1, "50% off", "", 0, 0⟩] := by cbv

private theorem search_priced : priced.search .both "0% O" =
    .ok [⟨2, "sum", "500 on", 0, 0⟩, ⟨1, "50% off", "", 0, 0⟩] := by
  rw [search_eq priced .both (isTooLong_anywhere (by decide)), all_priced]
  decide +kernel

/-- A needle with a sign of a pattern finds the two notes, each in another field. -/
theorem sign_in_needle :
    '\x00' ∉ "0% O".toList ∧ (Utf8.encode "0% O".toList).length ≤ 49998 ∧
      ∃ listed, Listings priced "0% O" listed ∧
        listed .both = [⟨2, "sum", "500 on", 0, 0⟩, ⟨1, "50% off", "", 0, 0⟩] := by
  have whole : '\x00' ∉ "0% O".toList := by decide
  have short : (Utf8.encode "0% O".toList).length ≤ 49998 := by decide
  obtain ⟨listed, listings⟩ := search_compares_needles priced whole short
  refine ⟨whole, short, listed, listings, ?_⟩
  exact Except.ok.inj ((listings.found .both).symm.trans search_priced)

end NoteBoard.Proofs.NeedleVariants
