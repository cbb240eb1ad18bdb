import NoteBoard.Proofs.LinkSafety
import NoteBoard.Proofs.MatchOrder

/-! Scanning word by word. The classes of the link pattern leave out the separators, and a separator
next to a place makes the same edge there as the end of a text. So the ways of the pattern, and the
order in which they are tried, are the same in a text by itself as between separators. -/

namespace NoteBoard.Proofs.ScanLocality
open Link LinkSafety MatchOrder

/-- No class of the pattern has a separator. -/
def Inside : Regex → Prop
  | .empty | .edge => True
  | .one allowed | .many allowed => ∀ c, allowed c = true → isInner c = true
  | .seq first second | .alt first second => Inside first ∧ Inside second
  | .star body => Inside body

section inside
variable {first second : Regex}

theorem Inside.seq (left : Inside first) (right : Inside second) : Inside (.seq first second) :=
  ⟨left, right⟩

theorem Inside.alt (left : Inside first) (right : Inside second) : Inside (.alt first second) :=
  ⟨left, right⟩

theorem Inside.opt (inside : Inside first) : Inside first.opt := ⟨inside, trivial⟩

theorem inside_one {allowed : Char → Bool} (fits : ∀ c, allowed c = true → isInner c = true) :
    Inside (.one allowed) := fits

theorem inside_many {allowed : Char → Bool} (fits : ∀ c, allowed c = true → isInner c = true) :
    Inside (.many allowed) := fits

theorem inside_char {c : Char} (fits : isInner c = true) : Inside (Regex.char c) := by
  intro other same
  rwa [beq_iff_eq.mp same]

private theorem inside_literal {word : String} (fits : word.toList.all isInner = true) :
    Inside (Regex.literal word) := by
  unfold Regex.literal
  generalize word.toList = letters at fits
  induction letters with
  | nil => trivial
  | cons c rest ih =>
    rw [List.all_cons, Bool.and_eq_true] at fits
    exact (inside_char fits.1).seq (ih fits.2)

theorem inside_anyCase {word : String} (letters : word.toList.all Char.isAlpha = true) :
    Inside (anyCase word) := by
  unfold anyCase
  generalize word.toList = word at letters
  induction word with
  | nil => trivial
  | cons letter rest ih =>
    rw [List.all_cons, Bool.and_eq_true] at letters
    have here : Inside (.one (foldsTo letter)) :=
      inside_one fun c folds => isInner_of_isLast (isLast_of_foldsTo letters.1 folds)
    exact here.seq (ih letters.2)

private theorem inside_upTo {allowed : Char → Bool}
    (fits : ∀ c, allowed c = true → isInner c = true)
    (count : Nat) : Inside (Regex.upTo allowed count) := by
  induction count with
  | zero => trivial
  | succ count ih => exact ((inside_one fits).seq ih).opt

private theorem inside_choice {alternatives : List Regex} {last : Regex}
    (each : ∀ alternative ∈ alternatives, Inside alternative) (final : Inside last) :
    Inside (Regex.choice alternatives last) := by
  induction alternatives with
  | nil => exact final
  | cons alternative alternatives ih =>
    obtain ⟨here, later⟩ := List.forall_mem_cons.mp each
    exact here.alt (ih later)

end inside

theorem isInner_of_isAlpha {c : Char} (letter : c.isAlpha = true) : isInner c = true :=
  isInner_of_isLast (isLast_of_isAlpha letter)

theorem isInner_of_isDigit {c : Char} (digit : c.isDigit = true) : isInner c = true :=
  isInner_of_isLast (isLast_of_isDigit digit)

theorem stretch_inside : Inside stretch :=
  (inside_many fun _ inner => inner).seq (inside_one fun _ last => isInner_of_isLast last)

theorem labels_inside : Inside labels := by
  have letter : Inside (.one Char.isAlphanum) := inside_one fun _ => isInner_of_isAlphanum
  have middle : Inside (.many isLabelChar) := inside_many fun _ => isInner_of_isLabelChar
  have label : Inside label := letter.seq ((middle.seq letter).opt.seq (inside_char (by decide)))
  exact ⟨label, label⟩

private theorem email_inside : Inside email := by
  have mailbox : Inside (Regex.plus isMailboxChar) :=
    (inside_one fun _ => isInner_of_isMailboxChar).seq
      (inside_many fun _ => isInner_of_isMailboxChar)
  have letter : Inside (.one Char.isAlpha) := inside_one fun _ => isInner_of_isAlpha
  have letters : Inside (Regex.plus Char.isAlpha) :=
    letter.seq (inside_many fun _ => isInner_of_isAlpha)
  exact mailbox.seq ((inside_char (by decide)).seq
    (labels_inside.seq (letter.seq (letters.seq trivial))))

private theorem topLevel_inside : Inside topLevel := by
  obtain ⟨words, letters, same⟩ := topLevel_words
  rw [same]
  refine inside_choice ?_ ?_
  · intro alternative member
    obtain ⟨word, listed, rfl⟩ := List.mem_map.mp member
    exact inside_anyCase (letters word listed).2
  · have letter : Inside (.one isFoldedLetter) :=
      inside_one fun _ folded => isInner_of_isLast (isLast_of_isFoldedLetter folded)
    exact letter.seq letter

private theorem bare_inside : Inside bare := by
  have digit : Inside (.one Char.isDigit) := inside_one fun _ => isInner_of_isDigit
  have port : Inside port :=
    (inside_char (by decide)).seq (digit.seq (inside_upTo (fun _ => isInner_of_isDigit) 4))
  have path : Inside path := (inside_char (by decide)).seq stretch_inside.opt
  have edge : Inside .edge := trivial
  exact edge.seq (labels_inside.seq (topLevel_inside.seq (edge.seq (port.opt.seq path.opt))))

private theorem pattern_inside : Inside pattern := by
  have schemed : Inside schemed :=
    (inside_one fun _ => isInner_of_isAlpha).seq
      ((inside_many fun _ => isInner_of_isSchemeChar).seq
        ((inside_literal (by decide)).seq stretch_inside))
  have mailto : Inside mailto :=
    (inside_anyCase (by decide)).seq ((inside_char (by decide)).seq stretch_inside)
  exact schemed.alt (mailto.alt (email_inside.alt bare_inside))

private theorem isWord_of_isBlank {c : Char} (blank : Text.isBlank c = true) :
    Text.isWord c = false := by
  have each : ∀ n ∈ [9, 10, 11, 12, 13, 0x20, 0x85, 0xA0, 0x1680, 0x2000, 0x2001, 0x2002, 0x2003,
      0x2004, 0x2005, 0x2006, 0x2007, 0x2008, 0x2009, 0x200A, 0x2028, 0x2029, 0x202F, 0x205F,
      0x3000], Text.isWord (Char.ofNat n) = false := by decide +kernel
  rw [← Char.ofNat_toNat c]
  refine each c.toNat ?_
  simp only [Text.isBlank, Bool.or_eq_true, Bool.and_eq_true, decide_eq_true_eq, beq_iff_eq]
    at blank
  simp only [List.mem_cons, List.not_mem_nil, or_false]
  omega

theorem isWord_of_isSeparator {c : Char} (separator : isSeparator c = true) :
    Text.isWord c = false := by
  simp only [isSeparator, Bool.or_eq_true, beq_iff_eq] at separator
  rcases separator with (((blank | rfl) | rfl) | rfl) | rfl
  · exact isWord_of_isBlank blank
  all_goals decide

theorem barred_of_inner {allowed : Char → Bool} (fits : ∀ c, allowed c = true → isInner c = true)
    {c : Char} (separator : isSeparator c = true) : allowed c = false := by
  rw [Bool.eq_false_iff]
  intro admitted
  have inner := fits c admitted
  rw [isInner, separator] at inner
  cases inner

def widen (left right : List Char) (place : Cursor) : Cursor :=
  ⟨left.length + place.index, place.before.or left.getLast?, place.rest ++ right⟩

private theorem rounds_widen {left right : List Char} {body : Cursor → List Cursor}
    (same : ∀ place, body (widen left right place) = (body place).map (widen left right))
    (limit : Nat) (place : Cursor) :
    rounds body limit (widen left right place) =
      (rounds body limit place).map (widen left right) := by
  induction limit generalizing place with
  | zero => rfl
  | succ limit ih =>
    have ahead (next : Cursor) : (widen left right place).index < (widen left right next).index ↔
        place.index < next.index := Nat.add_lt_add_iff_left
    unfold rounds
    rw [same, List.filter_map, List.flatMap_map, List.map_append, List.map_flatMap]
    simp only [Function.comp_def, ahead, ih]
    rfl

theorem widen_nil (right : List Char) (place : Cursor) :
    widen [] right place = ⟨place.index, place.before, place.rest ++ right⟩ := by
  unfold widen
  rw [List.length_nil, Nat.zero_add, List.getLast?_nil, Option.or_none]

structure Fenced (left right : List Char) : Prop where
  left : ∀ c, left.getLast? = some c → isSeparator c = true
  right : ∀ c, right.head? = some c → isSeparator c = true

section fenced
variable {left right : List Char} (fenced : Fenced left right)
include fenced

private theorem atEdge_widen (place : Cursor) : (widen left right place).atEdge = place.atEdge := by
  obtain ⟨index, before, rest⟩ := place
  have behind : ((before.or left.getLast?).map Text.isWord).getD false =
      (before.map Text.isWord).getD false := by
    cases before with
    | some c => rfl
    | none =>
      cases last : left.getLast? with
      | none => rfl
      | some c => exact isWord_of_isSeparator (fenced.left c last)
  have ahead : ((rest ++ right).head?.map Text.isWord).getD false =
      (rest.head?.map Text.isWord).getD false := by
    cases rest with
    | cons c rest => rfl
    | nil =>
      rw [List.nil_append]
      cases next : right.head? with
      | none => rfl
      | some c => exact isWord_of_isSeparator (fenced.right c next)
  unfold Cursor.atEdge widen
  rw [behind, ahead]

/-- A separator to the right ends a text as far as classes without separators go. -/
private theorem endings_one_widen {allowed : Char → Bool}
    (fits : ∀ c, allowed c = true → isInner c = true) (place : Cursor) :
    endings (.one allowed) (widen left right place) =
      (endings (.one allowed) place).map (widen left right) := by
  obtain ⟨index, before, _ | ⟨c, rest⟩⟩ := place
  · cases right with
    | nil => rfl
    | cons c right =>
      have barred : allowed c = false := barred_of_inner fits (fenced.right c rfl)
      unfold widen
      rw [List.nil_append, endings_one_cons, barred]
      rfl
  · unfold widen
    rw [List.cons_append, endings_one_cons, endings_one_cons]
    split <;> rfl

private theorem endings_many_widen {allowed : Char → Bool}
    (fits : ∀ c, allowed c = true → isInner c = true) (index : Nat) (before : Option Char)
    (rest : List Char) :
    endings (.many allowed) (widen left right ⟨index, before, rest⟩) =
      (endings (.many allowed) ⟨index, before, rest⟩).map (widen left right) := by
  induction rest generalizing index before with
  | nil =>
    cases right with
    | nil => rfl
    | cons c right =>
      have barred : allowed c = false := barred_of_inner fits (fenced.right c rfl)
      unfold widen
      rw [List.nil_append, endings_many_cons, barred]
      rfl
  | cons c rest ih =>
    have here : widen left right ⟨index, before, c :: rest⟩ =
        ⟨left.length + index, before.or left.getLast?, c :: (rest ++ right)⟩ := rfl
    have later : (⟨left.length + index + 1, some c, rest ++ right⟩ : Cursor) =
        widen left right ⟨index + 1, some c, rest⟩ := rfl
    rw [here, endings_many_cons, later, ih, endings_many_cons, List.map_append]
    split <;> rfl

private theorem endings_widen {pattern : Regex} (inside : Inside pattern) (place : Cursor) :
    endings pattern (widen left right place) = (endings pattern place).map (widen left right) := by
  induction pattern generalizing place with
  | empty => rfl
  | one allowed => exact endings_one_widen fenced inside place
  | many allowed => exact endings_many_widen fenced inside _ _ _
  | seq head tail first second =>
    unfold endings
    rw [first inside.1, List.flatMap_map, List.map_flatMap]
    exact List.flatMap_congr fun middle _ => second inside.2 middle
  | alt preferred other left right =>
    unfold endings
    rw [left inside.1, right inside.2, List.map_append]
  | star body ih =>
    unfold endings
    have length : (widen left right place).rest.length = place.rest.length + right.length :=
      List.length_append
    rw [length, rounds_widen (ih inside), rounds_limit (mem_endings_iff body)]
  | edge =>
    unfold endings
    rw [atEdge_widen fenced]
    split <;> rfl

theorem end?_widen {pattern : Regex} (inside : Inside pattern) (place : Cursor) :
    pattern.end? (widen left right place) = (pattern.end? place).map (widen left right) := by
  rw [end?_eq_head?, end?_eq_head?, endings_widen fenced inside, List.head?_map]

end fenced

def later (offset : Nat) (span : Span) : Span :=
  ⟨offset + span.start, offset + span.stop, span.text⟩

private theorem map_later_zero (spans : List Span) : spans.map (later 0) = spans := by
  refine List.map_id'' (fun span => ?_) spans
  unfold later
  rw [Nat.zero_add, Nat.zero_add]

section scan
variable {pattern : Regex} (inside : Inside pattern)
include inside

/-- A scan between separators finds what a scan of the text by itself finds, and then goes on. -/
theorem spansFrom_widen {left right : List Char} (fenced : Fenced left right) (index : Nat)
    (before : Option Char) {skip : Nat} {rest : List Char} (covered : skip ≤ rest.length) :
    pattern.spansFrom (left.length + index) (before.or left.getLast?) skip (rest ++ right) =
      (pattern.spansFrom index before skip rest).map (later left.length) ++
        pattern.spansFrom (left.length + index + rest.length)
          ((rest.getLast?.or before).or left.getLast?) 0 right := by
  induction rest generalizing index before skip with
  | nil =>
    rw [Nat.le_zero.mp covered]
    rfl
  | cons c rest ih =>
    have last : (c :: rest).getLast?.or before = rest.getLast?.or (some c) := by
      rw [List.getLast?_cons]
      cases rest.getLast? <;> rfl
    have onward {skip : Nat} (covered : skip ≤ rest.length) :
        pattern.spansFrom (left.length + index + 1) (some c) skip (rest ++ right) =
          (pattern.spansFrom (index + 1) (some c) skip rest).map (later left.length) ++
            pattern.spansFrom (left.length + index + (c :: rest).length)
              (((c :: rest).getLast?.or before).or left.getLast?) 0 right := by
      rw [last, List.length_cons, Nat.add_comm rest.length, ← Nat.add_assoc]
      exact ih (index + 1) (some c) covered
    cases skip with
    | succ skip => exact onward (Nat.le_of_succ_le_succ covered)
    | zero =>
      have here :
          pattern.end? ⟨left.length + index, before.or left.getLast?, c :: (rest ++ right)⟩ =
            (pattern.end? ⟨index, before, c :: rest⟩).map (widen left right) := by
        rw [← end?_widen fenced inside]
        rfl
      have size (ending : Cursor) :
          (widen left right ending).index - (left.length + index) = ending.index - index :=
        Nat.add_sub_add_left ..
      rw [List.cons_append]
      by_cases missed : ∀ ending, pattern.end? ⟨index, before, c :: rest⟩ = some ending →
          ending.index - index = 0
      · rw [spansFrom_pass missed, spansFrom_pass, onward (Nat.zero_le _)]
        intro wide taken
        rw [here] at taken
        obtain ⟨ending, found, rfl⟩ := Option.map_eq_some_iff.mp taken
        exact (size ending).trans (missed ending found)
      · push Not at missed
        obtain ⟨ending, found, longer⟩ := missed
        have within : ending.index - index ≤ (c :: rest).length := end?_within found
        have text : (c :: (rest ++ right)).take (ending.index - index) =
            (c :: rest).take (ending.index - index) := List.take_append_of_le_length within
        rw [found] at here
        rw [spansFrom_hit found longer, spansFrom_hit here (by rwa [size]), size,
          onward (Nat.sub_le_of_le_add within), text]
        have stop : (widen left right ending).index = left.length + ending.index := rfl
        rw [stop]
        rfl

private theorem spansFrom_separator {c : Char} {rest : List Char} (ahead : Fenced [] (c :: rest))
    (index : Nat) (before : Option Char) :
    pattern.spansFrom index before 0 (c :: rest) =
      pattern.spansFrom (index + 1) (some c) 0 rest := by
  refine spansFrom_pass ?_
  intro wide taken
  have here := end?_widen ahead inside ⟨index, before, []⟩
  rw [widen_nil, List.nil_append, taken] at here
  obtain ⟨ending, found, rfl⟩ := Option.map_eq_some_iff.mp here.symm
  rw [widen_nil]
  exact Nat.le_zero.mp (end?_within found)

/-- A separator cuts what is found in a text. -/
private theorem spans_append {c : Char} (separator : isSeparator c = true)
    (front back : List Char) :
    pattern.spans (front ++ c :: back) =
      pattern.spans front ++ (pattern.spans back).map (later (front.length + 1)) := by
  have ahead : Fenced [] (c :: back) := by
    refine ⟨nofun, fun other first => ?_⟩
    cases first
    exact separator
  have behind : Fenced (front ++ [c]) [] := by
    refine ⟨fun other last => ?_, nofun⟩
    rw [List.getLast?_concat] at last
    cases last
    exact separator
  have first : pattern.spans (front ++ c :: back) =
      pattern.spans front ++ pattern.spansFrom (front.length + 1) (some c) 0 back := by
    have cut := spansFrom_widen inside ahead 0 none (Nat.zero_le front.length)
    rw [spansFrom_separator inside ahead, List.length_nil, map_later_zero] at cut
    simpa [Regex.spans] using cut
  have second : pattern.spansFrom (front.length + 1) (some c) 0 back =
      (pattern.spans back).map (later (front.length + 1)) := by
    have cut := spansFrom_widen inside behind 0 none (Nat.zero_le back.length)
    rw [Regex.spansFrom.eq_1, List.getLast?_concat, List.length_append] at cut
    simpa [Regex.spans] using cut
  rw [first, second]

end scan

/-- The links of a text with a separator in it are those before the separator and those after it,
so no link depends on the words around its own. -/
theorem scan_cut_at_separator (before after : String) (c : Char)
    (separator : Text.isBlank c = true ∨ c ∈ ['<', '>', '"', '\'']) :
    scan (before ++ String.singleton c ++ after) = scan before ++ scan after := by
  have separates : isSeparator c = true := by
    simpa [isSeparator, or_assoc] using separator
  have written : (before ++ String.singleton c ++ after).toList =
      before.toList ++ c :: after.toList := by
    simp
  unfold scan Link.spans
  rw [written, spans_append pattern_inside separates, List.map_append, List.map_map]
  rfl

/-- A quote cuts what would be one link, and the blank after it two of its neighbours. -/
theorem quote_cuts_link :
    (Text.isBlank '"' = true ∨ '"' ∈ ['<', '>', '"', '\'']) ∧
      scan ("a.io:80" ++ String.singleton '"' ++ "/b.net x@c.org") =
        ["a.io:80", "b.net", "x@c.org"] := by
  have separator : Text.isBlank '"' = true ∨ '"' ∈ ['<', '>', '"', '\''] := by decide
  have before : scan "a.io:80" = ["a.io:80"] := by decide +kernel
  have after : scan "/b.net x@c.org" = ["b.net", "x@c.org"] := by decide +kernel
  refine ⟨separator, ?_⟩
  rw [scan_cut_at_separator _ _ _ separator, before, after]
  rfl

end NoteBoard.Proofs.ScanLocality
