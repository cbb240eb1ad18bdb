import NoteBoard.Html.Reading
import NoteBoard.Proofs.AsciiLetters
import NoteBoard.Proofs.FirstMark
import NoteBoard.Proofs.LinkWeaving
import NoteBoard.Proofs.MatchTexts

/-! What a link found in a text can be made of, and why its anchor cannot be broken out of: neither
a link nor its target has a character that could end an attribute or a tag, and a target names one
of the known schemes. -/

namespace NoteBoard.Proofs.LinkSafety
open AsciiLetters FirstMark Link LinkWeaving MatchTexts RegexMatches

def Inner (text : List Char) : Prop := ∀ c ∈ text, isInner c = true

/-- A text that holds no separator and ends in something else than closing punctuation. -/
structure Sound (text : List Char) : Prop where
  inner : Inner text
  ends : ∃ front c, text = front ++ [c] ∧ isLast c = true

def Loose (text : List Char) : Prop := text = [] ∨ Sound text

theorem isInner_of_isLast {c : Char} (last : isLast c = true) : isInner c = true := by
  unfold isLast at last
  rw [Bool.and_eq_true] at last
  exact last.1

theorem inner_nil : Inner [] := by simp [Inner]

theorem inner_one {c : Char} (fits : isInner c = true) : Inner [c] := by simpa [Inner] using fits

private theorem inner_cons (c : Char) (text : List Char) (fits : isInner c = true)
    (inner : Inner text) :
    Inner (c :: text) := List.forall_mem_cons.mpr ⟨fits, inner⟩

theorem inner_append (before after : List Char) (left : Inner before) (right : Inner after) :
    Inner (before ++ after) := List.forall_mem_append.mpr ⟨left, right⟩

theorem sound_one {c : Char} (last : isLast c = true) : Sound [c] :=
  ⟨inner_one (isInner_of_isLast last), [], c, rfl, last⟩

theorem sound_append (before after : List Char) (left : Inner before) (right : Sound after) :
    Sound (before ++ after) := by
  obtain ⟨inner, front, c, rfl, last⟩ := right
  exact ⟨inner_append _ _ left inner, before ++ front, c, (List.append_assoc ..).symm, last⟩

theorem sound_then (before after : List Char) (left : Sound before) (right : Loose after) :
    Sound (before ++ after) := by
  rcases right with rfl | sound
  · rwa [List.append_nil]
  · exact sound_append before after left.inner sound

theorem loose_append (before after : List Char) (left : Loose before) (right : Loose after) :
    Loose (before ++ after) := by
  rcases left with rfl | sound
  · exact right
  · exact Or.inr (sound_then before after sound right)

theorem Loose.inner {text : List Char} (loose : Loose text) : Inner text := by
  rcases loose with rfl | sound
  · exact inner_nil
  · exact sound.inner

section classes

theorem isLast_of_isAlphanum {c : Char} (fits : c.isAlphanum = true) : isLast c = true := by
  have each : ∀ n < 128, (Char.ofNat n).isAlphanum = true → isLast (Char.ofNat n) = true := by
    decide +kernel
  have holds := each c.toNat (ascii_of_isAlphanum fits)
  rw [Char.ofNat_toNat] at holds
  exact holds fits

theorem isLast_of_isAlpha {c : Char} (fits : c.isAlpha = true) : isLast c = true :=
  isLast_of_isAlphanum (by simp [Char.isAlphanum, fits])

theorem isLast_of_isDigit {c : Char} (fits : c.isDigit = true) : isLast c = true :=
  isLast_of_isAlphanum (by simp [Char.isAlphanum, fits])

theorem isLast_of_foldsTo {letter c : Char} (isLetter : letter.isAlpha = true)
    (folds : foldsTo letter c = true) : isLast c = true := by
  simp only [foldsTo, Bool.or_eq_true, Bool.and_eq_true, beq_iff_eq] at folds
  rcases folds with (lower | ⟨_, rfl⟩) | ⟨_, rfl⟩
  · exact isLast_of_isAlpha (isAlpha_of_toLower lower isLetter)
  · decide
  · decide

theorem isLast_of_isFoldedLetter {c : Char} (folded : isFoldedLetter c = true) :
    isLast c = true := by
  simp only [isFoldedLetter, Bool.or_eq_true, beq_iff_eq] at folded
  rcases folded with (alpha | rfl) | rfl
  · exact isLast_of_isAlpha alpha
  · decide
  · decide

theorem isInner_of_isAlphanum {c : Char} (fits : c.isAlphanum = true) : isInner c = true :=
  isInner_of_isLast (isLast_of_isAlphanum fits)

theorem isInner_of_isSchemeChar {c : Char} (fits : isSchemeChar c = true) : isInner c = true := by
  simp only [isSchemeChar, Bool.or_eq_true, beq_iff_eq] at fits
  rcases fits with ((letter | rfl) | rfl) | rfl
  · exact isInner_of_isAlphanum letter
  all_goals decide

theorem isInner_of_isMailboxChar {c : Char} (fits : isMailboxChar c = true) : isInner c = true := by
  simp only [isMailboxChar, Bool.or_eq_true, beq_iff_eq] at fits
  rcases fits with ((((letter | rfl) | rfl) | rfl) | rfl) | rfl
  · exact isInner_of_isAlphanum letter
  all_goals decide

theorem isInner_of_isLabelChar {c : Char} (fits : isLabelChar c = true) : isInner c = true := by
  simp only [isLabelChar, Bool.or_eq_true, beq_iff_eq] at fits
  rcases fits with letter | rfl
  · exact isInner_of_isAlphanum letter
  · decide

end classes

section parts

theorem inner_of_one {allowed : Char → Bool} (fits : ∀ c, allowed c = true → isInner c = true) :
    Yields Inner (.one allowed) := yields_one fun c allowed => inner_one (fits c allowed)

theorem inner_of_many {allowed : Char → Bool} (fits : ∀ c, allowed c = true → isInner c = true) :
    Yields Inner (.many allowed) :=
  yields_many inner_nil fun c text allowed => inner_cons c text (fits c allowed)

theorem inner_of_char {c : Char} (fits : isInner c = true) : Yields Inner (Regex.char c) := by
  refine inner_of_one ?_
  intro other same
  rwa [beq_iff_eq.mp same]

private theorem inner_of_literal {word : String} (fits : word.toList.all isInner = true) :
    Yields Inner (Regex.literal word) := by
  unfold Regex.literal
  generalize word.toList = letters at fits
  induction letters with
  | nil => exact yields_empty inner_nil
  | cons c rest ih =>
    rw [List.all_cons, Bool.and_eq_true] at fits
    obtain ⟨here, later⟩ := fits
    exact (inner_of_char here).seq (ih later) inner_append

theorem loose_of_one {allowed : Char → Bool} (fits : ∀ c, allowed c = true → isLast c = true) :
    Yields Loose (.one allowed) := yields_one fun c allowed => Or.inr (sound_one (fits c allowed))

theorem sound_of_one {allowed : Char → Bool} (fits : ∀ c, allowed c = true → isLast c = true) :
    Yields Sound (.one allowed) := yields_one fun c allowed => sound_one (fits c allowed)

private theorem loose_of_many {allowed : Char → Bool}
    (fits : ∀ c, allowed c = true → isLast c = true) :
    Yields Loose (.many allowed) :=
  yields_many (Or.inl rfl) fun c text allowed loose =>
    loose_append [c] text (Or.inr (sound_one (fits c allowed))) loose

private theorem sound_of_plus {allowed : Char → Bool}
    (fits : ∀ c, allowed c = true → isLast c = true) :
    Yields Sound (Regex.plus allowed) := (sound_of_one fits).seq (loose_of_many fits) sound_then

private theorem loose_of_upTo {allowed : Char → Bool}
    (fits : ∀ c, allowed c = true → isLast c = true)
    (count : Nat) : Yields Loose (Regex.upTo allowed count) := by
  induction count with
  | zero => exact yields_empty (Or.inl rfl)
  | succ count ih => exact ((loose_of_one fits).seq ih loose_append).opt (Or.inl rfl)

theorem loose_of_anyCase {word : String} (letters : word.toList.all Char.isAlpha = true) :
    Yields Loose (anyCase word) := by
  unfold anyCase
  generalize word.toList = word at letters
  induction word with
  | nil => exact yields_empty (Or.inl rfl)
  | cons letter rest ih =>
    rw [List.all_cons, Bool.and_eq_true] at letters
    obtain ⟨here, later⟩ := letters
    have first : Yields Loose (.one (foldsTo letter)) :=
      loose_of_one fun c folds => isLast_of_foldsTo here folds
    exact first.seq (ih later) loose_append

private theorem sound_of_anyCase {word : String} (nonempty : word.toList ≠ [])
    (letters : word.toList.all Char.isAlpha = true) : Yields Sound (anyCase word) := by
  obtain ⟨letter, rest, written⟩ := List.exists_cons_of_ne_nil nonempty
  have later : (String.ofList rest).toList.all Char.isAlpha = true →
      Yields Loose (anyCase (String.ofList rest)) := loose_of_anyCase
  unfold anyCase at later ⊢
  rw [String.toList_ofList] at later
  rw [written] at letters ⊢
  rw [List.all_cons, Bool.and_eq_true] at letters
  obtain ⟨here, others⟩ := letters
  have first : Yields Sound (.one (foldsTo letter)) :=
    sound_of_one fun c folds => isLast_of_foldsTo here folds
  exact first.seq (later others) sound_then

end parts

theorem stretch_sound : Yields Sound stretch :=
  (inner_of_many fun _ inner => inner).seq (sound_of_one fun _ last => last) sound_append

theorem schemed_sound : Yields Sound schemed := by
  have name : Yields Inner (.one Char.isAlpha) :=
    inner_of_one fun c letter => isInner_of_isLast (isLast_of_isAlpha letter)
  have more : Yields Inner (.many isSchemeChar) :=
    inner_of_many fun c fits => isInner_of_isSchemeChar fits
  have mark : Yields Inner (Regex.literal "://") := inner_of_literal (by decide)
  exact name.seq (more.seq (mark.seq stretch_sound sound_append) sound_append) sound_append

theorem mailto_sound : Yields Sound mailto := by
  have name : Yields Inner (anyCase "mailto") :=
    (loose_of_anyCase (by decide)).imp fun _ loose => loose.inner
  have mark : Yields Inner (Regex.char ':') := inner_of_char (by decide)
  exact name.seq (mark.seq stretch_sound sound_append) sound_append

theorem labels_inner : Yields Inner labels := by
  have letter : Yields Inner (.one Char.isAlphanum) :=
    inner_of_one fun c fits => isInner_of_isAlphanum fits
  have middle : Yields Inner (.many isLabelChar) :=
    inner_of_many fun c fits => isInner_of_isLabelChar fits
  have dot : Yields Inner (Regex.char '.') := inner_of_char (by decide)
  have label : Yields Inner label :=
    letter.seq (((middle.seq letter inner_append).opt inner_nil).seq dot inner_append) inner_append
  exact label.seq (label.star inner_nil inner_append) inner_append

private theorem email_sound : Yields Sound email := by
  have mailbox : Yields Inner (Regex.plus isMailboxChar) :=
    (inner_of_one fun c fits => isInner_of_isMailboxChar fits).seq
      (inner_of_many fun c fits => isInner_of_isMailboxChar fits) inner_append
  have mark : Yields Inner (Regex.char '@') := inner_of_char (by decide)
  have letter : Yields Sound (.one Char.isAlpha) :=
    sound_of_one fun c fits => isLast_of_isAlpha fits
  have more : Yields Loose (.seq (Regex.plus Char.isAlpha) .edge) :=
    (sound_of_plus fun c fits => isLast_of_isAlpha fits).seq (yields_edge (Or.inl rfl))
      fun before after sound loose => Or.inr (sound_then before after sound loose)
  exact mailbox.seq (mark.seq (labels_inner.seq (letter.seq more sound_then) sound_append)
    sound_append) sound_append

theorem topLevel_words : ∃ words : List String,
    (∀ word ∈ words, word.toList ≠ [] ∧ word.toList.all Char.isAlpha = true) ∧
      topLevel = Regex.choice (words.map anyCase)
        (.seq (.one isFoldedLetter) (.one isFoldedLetter)) := by
  refine ⟨_, ?_, rfl⟩
  decide

private theorem topLevel_sound : Yields Sound topLevel := by
  obtain ⟨words, letters, same⟩ := topLevel_words
  rw [same]
  refine Yields.choice ?_ ?_
  · intro alternative member
    obtain ⟨word, listed, rfl⟩ := List.mem_map.mp member
    exact sound_of_anyCase (letters word listed).1 (letters word listed).2
  · have letter : Yields Sound (.one isFoldedLetter) :=
      sound_of_one fun c fits => isLast_of_isFoldedLetter fits
    exact letter.seq (letter.imp fun _ sound => Or.inr sound) sound_then

private theorem port_loose : Yields Loose port.opt := by
  have mark : Yields Inner (Regex.char ':') := inner_of_char (by decide)
  have digits : Yields Sound (.seq (.one Char.isDigit) (Regex.upTo Char.isDigit 4)) :=
    (sound_of_one fun c fits => isLast_of_isDigit fits).seq
      (loose_of_upTo (fun c fits => isLast_of_isDigit fits) 4) sound_then
  exact ((mark.seq digits sound_append).imp fun _ sound => Or.inr sound).opt (Or.inl rfl)

private theorem path_loose : Yields Loose path.opt := by
  have mark : Yields Loose (Regex.char '/') := loose_of_one fun c same => by
    rw [beq_iff_eq.mp same]
    decide
  have rest : Yields Loose stretch.opt :=
    (stretch_sound.imp fun _ sound => Or.inr sound).opt (Or.inl rfl)
  exact (mark.seq rest loose_append).opt (Or.inl rfl)

private theorem bare_sound : Yields Sound bare := by
  have tail : Yields Loose (.seq .edge (.seq port.opt path.opt)) :=
    (yields_edge (Or.inl rfl)).seq (port_loose.seq path_loose loose_append) loose_append
  exact (yields_edge inner_nil).seq
    (labels_inner.seq (topLevel_sound.seq tail sound_then) sound_append) sound_append

theorem pattern_sound : Yields Sound pattern :=
  schemed_sound.alt (mailto_sound.alt (email_sound.alt bare_sound))

private theorem placed_inOrder {text : List Char} {place : Nat} {spans : List Span}
    (placed : Placed pattern text place spans) :
    InOrder (spans.map fun span => String.ofList span.text) (String.ofList (text.drop place)) := by
  induction placed with
  | none place => exact .none _
  | @next place span spans fits ahead later ih =>
    rw [← take_append_occurrence (fits.occurs ahead), fits.drop_stop ahead, String.ofList_append,
      String.ofList_append]
    exact .next _ _ ih

private theorem scan_inOrder (text : String) : InOrder (scan text) text := by
  have placed : Placed pattern text.toList 0 (spans text.toList) := spans_placed pattern _
  have inOrder := placed_inOrder placed
  rwa [List.drop_zero, String.ofList_toList] at inOrder

theorem sound_of_mem_scan {text link : String} (found : link ∈ scan text) : Sound link.toList := by
  obtain ⟨span, member, rfl⟩ := List.mem_map.mp found
  rw [String.toList_ofList]
  exact pattern_sound.fits (fits_of_placed (spans_placed pattern text.toList) span member)

theorem Sound.nonempty {link : String} (sound : Sound link.toList) : link ≠ "" := by
  rintro rfl
  obtain ⟨_, front, c, written, _⟩ := sound
  simp at written

private theorem annotate_weaves (text : String) : Woven (scan text) text (annotate text) := by
  have kept : (scan text).filter (· ≠ "") = scan text := by
    rw [List.filter_eq_self]
    intro link found
    exact decide_eq_true (sound_of_mem_scan found).nonempty
  obtain ⟨woven, _, weaves, all⟩ := walk_weaves (scan text)
    (fun link found => (sound_of_mem_scan found).nonempty) text
  rw [all (scan_inOrder text)] at weaves
  unfold annotate
  rwa [annotateWith_eq, kept]

private theorem start_of_hasScheme {link : List Char} (known : hasScheme link = true) :
    ∃ start ∈ "mailto:" :: schemes, start.toList <+: link.map Char.toLower := by
  obtain ⟨scheme, listed, led⟩ := List.any_eq_true.mp known
  have lower : ∀ scheme ∈ schemes, scheme.toList.map Char.toLower = scheme.toList := by decide
  refine ⟨scheme, List.mem_cons_of_mem _ listed, ?_⟩
  rw [← lower scheme listed]
  exact (List.isPrefixOf_iff_prefix.mp led).map _

private theorem start_of_isMailto {link : List Char} (mail : isMailto link = true) :
    ∃ start ∈ "mailto:" :: schemes, start.toList <+: link.map Char.toLower := by
  refine ⟨"mailto:", List.mem_cons_self, ?_⟩
  unfold isMailto at mail
  rw [← beq_iff_eq.mp mail]
  exact (List.take_prefix 7 link).map _

theorem target_toList (link : String) : (target link).toList = targetChars link.toList :=
  String.toList_ofList

private theorem target_start (link : String) :
    ∃ start ∈ "mailto:" :: schemes, start.toList <+: (target link).toList.map Char.toLower := by
  rw [target_toList]
  unfold targetChars
  split
  next own =>
    rw [Bool.or_eq_true] at own
    rcases own with known | mail
    · exact start_of_hasScheme known
    · exact start_of_isMailto mail
  next =>
    rw [apply_ite (List.map Char.toLower), List.map_append, List.map_append]
    split
    · exact ⟨"mailto:", by decide, List.prefix_append _ _⟩
    · exact ⟨"http://", by decide, List.prefix_append _ _⟩

private theorem target_inner {link : String} (inner : Inner link.toList) :
    Inner (target link).toList := by
  rw [target_toList]
  unfold targetChars
  have mail : Inner "mailto:".toList := List.all_eq_true.mp (by decide)
  have web : Inner "http://".toList := List.all_eq_true.mp (by decide)
  split
  · exact inner
  · split
    · exact inner_append _ _ mail inner
    · exact inner_append _ _ web inner

/-- No white space, no angle bracket and no quote: nothing that ends an attribute or a tag. -/
def Unbroken (text : List Char) : Prop :=
  ∀ c ∈ text, Text.isBlank c = false ∧ c ∉ ['<', '>', '"', '\'']

theorem Inner.unbroken {text : List Char} (inner : Inner text) : Unbroken text := by
  intro c member
  have fits := inner c member
  simp only [isInner, isSeparator, Bool.not_eq_true', Bool.or_eq_false_iff, beq_eq_false_iff_ne]
    at fits
  simpa [and_assoc] using fits

theorem Sound.last {text : List Char} (sound : Sound text) (c : Char)
    (last : text.getLast? = some c) : c ∉ ".,;:!?)]\x7d".toList := by
  obtain ⟨_, front, other, rfl, fits⟩ := sound
  rw [List.getLast?_concat] at last
  cases last
  simp only [isLast, isClosing, Bool.and_eq_true, Bool.not_eq_true'] at fits
  simpa using fits.2

private theorem between?_anchor {link : String} (unbroken : Unbroken (target link).toList)
    (rest : List Char) :
    Html.between? "<a href=\"" "\"" (anchor link.toList ++ rest) = some (target link).toList := by
  have absent : '"' ∉ (target link).toList := fun member => (unbroken _ member).2 (by decide)
  have written : anchor link.toList ++ rest = "<a href=\"".toList ++ ((target link).toList ++
      '"' :: (" target=\"_blank\">".toList ++ (link.toList ++ ("</a>".toList ++ rest)))) := by
    have closing : "\" target=\"_blank\">".toList = '"' :: " target=\"_blank\">".toList := by
      rfl
    unfold anchor
    simp only [List.append_assoc, List.cons_append, closing]
    rw [target_toList]
  have quote : "\"".toList = ['"'] := rfl
  unfold Html.between?
  rw [written, cut?_mark (by decide), Option.bind_eq_bind, Option.bind_some, quote,
    cut?_before _ absent, Option.bind_some]
  rfl

/-- A link found in a text is not empty, holds nothing that ends an attribute or a tag and ends in
no closing punctuation. So the attribute of its anchor ends where it is closed, and its target is
a URL of one of the known schemes or a mail link, whatever the text. -/
theorem anchors_well_formed (text : String) :
    (∀ link ∈ scan text, link ≠ "" ∧ Unbroken link.toList ∧
      ∀ c, link.toList.getLast? = some c → c ∉ ".,;:!?)]\x7d".toList) ∧
    Woven (scan text) text (annotate text) ∧
    ∀ link ∈ scan text, Unbroken (target link).toList ∧
      (∀ rest, Html.between? "<a href=\"" "\"" (anchor link.toList ++ rest) =
        some (target link).toList) ∧
      ∃ start ∈ "mailto:" :: schemes, start.toList <+: (target link).toList.map Char.toLower := by
  refine ⟨?_, annotate_weaves text, ?_⟩
  · intro link found
    have sound := sound_of_mem_scan found
    exact ⟨sound.nonempty, sound.inner.unbroken, sound.last⟩
  · intro link found
    have unbroken := (target_inner (sound_of_mem_scan found).inner).unbroken
    exact ⟨unbroken, between?_anchor unbroken, target_start link⟩

end NoteBoard.Proofs.LinkSafety
