import Mathlib.Data.List.Forall2
import NoteBoard.Proofs.FirstMark
import NoteBoard.Proofs.LinkSafety

/-! The texts of each kind of link, part by part: where its colons, slashes and at signs can stand.
That tells the kinds apart, since each of them has one of these signs before any other. -/

namespace NoteBoard.Proofs.LinkTexts
open AsciiLetters Link LinkSafety MatchTexts RegexMatches

def Each (fits : Char → Prop) (text : List Char) : Prop := ∀ c ∈ text, fits c

section texts
variable {property : List Char → Prop} {pattern : Regex} {place ending : Cursor}
  {allowed : Char → Bool} {fits : Char → Prop}

theorem each_append (before after : List Char) (left : Each fits before) (right : Each fits after) :
    Each fits (before ++ after) := List.forall_mem_append.mpr ⟨left, right⟩

theorem each_nil : Each fits [] := List.forall_mem_nil fits

theorem yields_each (each : ∀ c, allowed c = true → fits c) : Yields (Each fits) (.one allowed) :=
  yields_one fun c admitted => List.forall_mem_singleton.mpr (each c admitted)

theorem yields_each_many (each : ∀ c, allowed c = true → fits c) :
    Yields (Each fits) (.many allowed) :=
  yields_many each_nil fun c _ admitted rest => List.forall_mem_cons.mpr ⟨each c admitted, rest⟩

theorem yields_char (c : Char) : Yields (· = [c]) (Regex.char c) :=
  yields_one fun _ same => congrArg ([·]) (beq_iff_eq.mp same)

theorem yields_literal (word : String) : Yields (· = word.toList) (Regex.literal word) := by
  unfold Regex.literal
  generalize word.toList = letters
  induction letters with
  | nil => exact yields_empty rfl
  | cons c rest ih =>
    refine (yields_char c).seq ih ?_
    rintro _ _ rfl rfl
    rfl

/-- The text is the word, the case of its letters aside. -/
def Folds (word text : List Char) : Prop :=
  List.Forall₂ (fun letter c => foldsTo letter c = true) word text

theorem yields_anyCase (word : String) : Yields (Folds word.toList) (anyCase word) := by
  unfold anyCase
  generalize word.toList = word
  induction word with
  | nil => exact yields_empty .nil
  | cons letter rest ih =>
    have first : Yields (Folds [letter]) (.one (foldsTo letter)) :=
      yields_one fun c folds => .cons folds .nil
    exact first.seq ih fun _ _ before after => List.rel_append before after

theorem Yields.split (yields : Yields property pattern) (reaches : Reaches pattern place ending) :
    ∃ text, place.rest = text ++ ending.rest ∧ property text := by
  obtain ⟨text, passes, holds⟩ := yields _ _ reaches
  exact ⟨text, passes.written, holds⟩

theorem Yields.whole (yields : Yields property pattern) (reaches : Reaches pattern place ending)
    (done : ending.rest = []) : property place.rest := by
  obtain ⟨text, written, holds⟩ := Yields.split yields reaches
  rwa [written, done, List.append_nil]

end texts

def signs : List Char := [':', '/', '@']

section classes

theorem barred_of_mem {allowed : Char → Bool} {c : Char} {barred : List Char}
    (out : barred.all (! allowed ·) = true) (member : c ∈ barred) : allowed c = false :=
  (Bool.not_eq_true' _).mp (List.all_eq_true.mp out c member)

theorem not_mem_of_allowed {allowed : Char → Bool} {c : Char} {barred : List Char}
    (fits : allowed c = true) (out : barred.all (! allowed ·) = true) : c ∉ barred := by
  intro member
  rw [barred_of_mem out member] at fits
  cases fits

private theorem isFoldedLetter_of_foldsTo {letter c : Char} (isLetter : letter.isAlpha = true)
    (folds : foldsTo letter c = true) : isFoldedLetter c = true := by
  simp only [foldsTo, Bool.or_eq_true, Bool.and_eq_true, beq_iff_eq] at folds
  rcases folds with (lower | ⟨_, rfl⟩) | ⟨_, rfl⟩
  · simp [isFoldedLetter, isAlpha_of_toLower lower isLetter]
  · decide
  · decide

theorem folded_of_folds {word text : List Char} (letters : word.all Char.isAlpha = true)
    (folds : Folds word text) : Each (isFoldedLetter · = true) text := by
  induction folds with
  | nil => exact each_nil
  | cons here later ih =>
    rw [List.all_cons, Bool.and_eq_true] at letters
    exact List.forall_mem_cons.mpr ⟨isFoldedLetter_of_foldsTo letters.1 here, ih letters.2⟩

theorem Each.plain {allowed : Char → Bool} {text barred : List Char}
    (each : Each (allowed · = true) text) (out : barred.all (! allowed ·) = true) :
    Each (· ∉ barred) text := fun c member => not_mem_of_allowed (each c member) out

end classes

theorem schemed_text : Yields (fun text => ∃ name address,
    text = name ++ "://".toList ++ address ∧ Each (isSchemeChar · = true) name) schemed := by
  have first : Yields (Each (isSchemeChar · = true)) (.one Char.isAlpha) :=
    yields_each fun c letter => by simp [isSchemeChar, Char.isAlphanum, letter]
  have more : Yields (Each (isSchemeChar · = true)) (.many isSchemeChar) :=
    yields_each_many fun _ fits => fits
  have tail : Yields (fun text => ∃ address, text = "://".toList ++ address)
      (.seq (Regex.literal "://") stretch) :=
    (yields_literal "://").seq stretch_sound fun _ address mark _ => ⟨address, mark ▸ rfl⟩
  have named : Yields (fun text => ∃ name address,
      text = name ++ "://".toList ++ address ∧ Each (isSchemeChar · = true) name)
      (.seq (.many isSchemeChar) (.seq (Regex.literal "://") stretch)) := by
    refine more.seq tail ?_
    rintro name _ fits ⟨address, rfl⟩
    exact ⟨name, address, (List.append_assoc ..).symm, fits⟩
  refine first.seq named ?_
  rintro start _ letter ⟨name, address, rfl, fits⟩
  refine ⟨start ++ name, address, ?_, each_append _ _ letter fits⟩
  simp only [List.append_assoc]

theorem mailto_text : Yields (fun text => ∃ name address,
    text = name ++ ':' :: address ∧ Folds "mailto".toList name) mailto := by
  have tail : Yields (fun text => ∃ address, text = ':' :: address)
      (.seq (Regex.char ':') stretch) :=
    (yields_char ':').seq stretch_sound fun _ address mark _ => ⟨address, mark ▸ rfl⟩
  refine (yields_anyCase "mailto").seq tail ?_
  rintro name _ folds ⟨address, rfl⟩
  exact ⟨name, address, rfl, folds⟩

def Dotted (text : List Char) : Prop :=
  ∃ name, text = name ++ ['.'] ∧ Each (isLabelChar · = true) name

theorem label_text : Yields Dotted label := by
  have letter : Yields (Each (isLabelChar · = true)) (.one Char.isAlphanum) :=
    yields_each fun c fits => by simp [isLabelChar, fits]
  have middle : Yields (Each (isLabelChar · = true)) (.many isLabelChar) :=
    yields_each_many fun _ fits => fits
  have more : Yields (Each (isLabelChar · = true))
      (Regex.seq (.many isLabelChar) (.one Char.isAlphanum)).opt :=
    (middle.seq letter each_append).opt each_nil
  have tail : Yields Dotted (.seq (Regex.seq (.many isLabelChar) (.one Char.isAlphanum)).opt
      (Regex.char '.')) :=
    more.seq (yields_char '.') fun name _ fits mark => ⟨name, by rw [mark], fits⟩
  refine letter.seq tail ?_
  rintro start _ first ⟨name, rfl, fits⟩
  exact ⟨start ++ name, (List.append_assoc ..).symm, each_append _ _ first fits⟩

/-- The front of a host: no sign ends it, and there is a dot in it. -/
structure Front (text : List Char) : Prop where
  plain : Each (· ∉ signs) text
  dotted : '.' ∈ text

theorem Dotted.front {text : List Char} (dotted : Dotted text) : Front text := by
  obtain ⟨name, rfl, fits⟩ := dotted
  refine ⟨each_append _ _ (fits.plain (by decide)) ?_, by simp⟩
  exact List.forall_mem_singleton.mpr (by decide)

theorem labels_text : Yields Front labels := by
  have plain : Yields (Each (· ∉ signs)) label := label_text.imp fun _ dotted => dotted.front.plain
  refine (label_text.imp fun _ => Dotted.front).seq (plain.star each_nil each_append) ?_
  intro first later front rest
  exact ⟨each_append _ _ front.plain rest, List.mem_append_left _ front.dotted⟩

theorem topLevel_text :
    Yields (fun text => text ≠ [] ∧ Each (isFoldedLetter · = true) text) topLevel := by
  obtain ⟨words, each, same⟩ := topLevel_words
  rw [same]
  refine Yields.choice ?_ ?_
  · intro alternative member
    obtain ⟨word, listed, rfl⟩ := List.mem_map.mp member
    obtain ⟨nonempty, letters⟩ := each word listed
    refine (yields_anyCase word).imp fun text folds => ⟨?_, folded_of_folds letters folds⟩
    rintro rfl
    cases written : word.toList with
    | nil => exact nonempty written
    | cons letter rest =>
      rw [written] at folds
      cases folds
  · have letter : Yields (Each (isFoldedLetter · = true)) (.one isFoldedLetter) :=
      yields_each fun _ fits => fits
    have one : Yields (fun text => text ≠ [] ∧ Each (isFoldedLetter · = true) text)
        (.one isFoldedLetter) :=
      yields_one fun c fits => ⟨List.cons_ne_nil _ _, List.forall_mem_singleton.mpr fits⟩
    refine one.seq letter ?_
    rintro first second ⟨nonempty, fits⟩ more
    exact ⟨List.append_ne_nil_of_left_ne_nil nonempty _, each_append _ _ fits more⟩

def Port (text : List Char) : Prop :=
  text = [] ∨ ∃ d digits, text = ':' :: d :: digits ∧ Each (·.isDigit = true) (d :: digits)

def Path (text : List Char) : Prop := text = [] ∨ ∃ more, text = '/' :: more

theorem port_text : Yields Port port.opt := by
  have digit : Yields (Each (·.isDigit = true)) (.one Char.isDigit) :=
    yields_each fun _ fits => fits
  have upTo (count : Nat) : Yields (Each (·.isDigit = true)) (Regex.upTo Char.isDigit count) := by
    induction count with
    | zero => exact yields_empty each_nil
    | succ count ih => exact (digit.seq ih each_append).opt each_nil
  have digits : Yields (fun text => ∃ d digits, text = d :: digits ∧
      Each (·.isDigit = true) (d :: digits))
      (.seq (.one Char.isDigit) (Regex.upTo Char.isDigit 4)) := by
    have one : Yields (fun text => ∃ d, text = [d] ∧ d.isDigit = true) (.one Char.isDigit) :=
      yields_one fun d fits => ⟨d, rfl, fits⟩
    refine one.seq (upTo 4) ?_
    rintro _ digits ⟨d, rfl, fits⟩ more
    exact ⟨d, digits, rfl, List.forall_mem_cons.mpr ⟨fits, more⟩⟩
  refine Yields.opt ((yields_char ':').seq digits ?_) (Or.inl rfl)
  rintro _ _ rfl ⟨d, digits, rfl, fits⟩
  exact Or.inr ⟨d, digits, rfl, fits⟩

theorem path_text : Yields Path path.opt := by
  have rest : Yields (fun _ => True) stretch.opt :=
    (stretch_sound.imp fun _ _ => trivial).opt trivial
  refine Yields.opt ((yields_char '/').seq rest ?_) (Or.inl rfl)
  rintro _ more rfl _
  exact Or.inr ⟨more, rfl⟩

theorem head_after_host {port path : List Char} (ported : Port port) (pathed : Path path) {c : Char}
    (head : (port ++ path).head? = some c) : c ∈ [':', '/'] := by
  rcases ported with rfl | ⟨d, digits, rfl, _⟩
  · rcases pathed with rfl | ⟨more, rfl⟩
    · cases head
    · cases head
      decide
  · cases head
    decide

structure Site (host port path : List Char) : Prop where
  host : Front host
  port : Port port
  path : Path path

theorem bare_text :
    Yields (fun text => ∃ host port path, text = host ++ (port ++ path) ∧ Site host port path)
      bare := by
  have last : Yields (Each (· ∉ signs)) topLevel :=
    topLevel_text.imp fun _ ⟨_, fits⟩ => fits.plain (by decide)
  have more : Yields (fun text => ∃ port path, text = port ++ path ∧ Port port ∧ Path path)
      (.seq port.opt path.opt) :=
    port_text.seq path_text fun port path left right => ⟨port, path, rfl, left, right⟩
  have after : Yields (fun text => ∃ port path, text = port ++ path ∧ Port port ∧ Path path)
      (.seq .edge (.seq port.opt path.opt)) :=
    (yields_edge rfl).seq more fun _ _ nothing holds => by rwa [← nothing]
  have host : Yields (fun text => ∃ host port path, text = host ++ (port ++ path) ∧
      Each (· ∉ signs) host ∧ Port port ∧ Path path)
      (.seq topLevel (.seq .edge (.seq port.opt path.opt))) := by
    refine last.seq after ?_
    rintro host _ plain ⟨port, path, rfl, rest⟩
    exact ⟨host, port, path, rfl, plain, rest⟩
  have whole : Yields (fun text => ∃ host port path, text = host ++ (port ++ path) ∧
      Site host port path)
      (.seq labels (.seq topLevel (.seq .edge (.seq port.opt path.opt)))) := by
    refine labels_text.seq host ?_
    rintro front _ holds ⟨host, port, path, rfl, plain, ported, pathed⟩
    refine ⟨front ++ host, port, path, (List.append_assoc ..).symm, ⟨?_, ?_⟩, ported, pathed⟩
    · exact each_append _ _ holds.plain plain
    · exact List.mem_append_left _ holds.dotted
  exact (yields_edge rfl).seq whole fun _ _ nothing holds => by rwa [← nothing]

structure Mailbox (text : List Char) : Prop where
  marked : '@' ∈ text
  plain : Each (· ∉ [':', '/']) text

theorem email_text : Yields Mailbox email := by
  have letters : ∀ c : Char, c.isAlpha = true → c ∉ [':', '/'] :=
    fun c fits => not_mem_of_allowed fits (by decide)
  have boxes : ∀ c, isMailboxChar c = true → c ∉ [':', '/'] :=
    fun c fits => not_mem_of_allowed fits (by decide)
  have mailbox : Yields (Each (· ∉ [':', '/'])) (Regex.plus isMailboxChar) :=
    (yields_each boxes).seq (yields_each_many boxes) each_append
  have names : Yields (Each (· ∉ [':', '/'])) labels :=
    labels_text.imp fun _ front c member listed =>
      front.plain c member (List.mem_append_left ['@'] listed)
  have more : Yields (Each (· ∉ [':', '/'])) (Regex.plus Char.isAlpha) :=
    (yields_each letters).seq (yields_each_many letters) each_append
  have last : Yields (Each (· ∉ [':', '/']))
      (.seq (.one Char.isAlpha) (.seq (Regex.plus Char.isAlpha) .edge)) :=
    (yields_each letters).seq (more.seq (yields_edge each_nil) each_append) each_append
  have marked : Yields Mailbox (.seq (Regex.char '@') (.seq labels
      (.seq (.one Char.isAlpha) (.seq (Regex.plus Char.isAlpha) .edge)))) := by
    refine (yields_char '@').seq (names.seq last each_append) ?_
    rintro _ host rfl plain
    exact ⟨List.mem_cons_self, List.forall_mem_cons.mpr ⟨by decide, plain⟩⟩
  refine mailbox.seq marked fun box host plain holds => ⟨?_, each_append _ _ plain holds.plain⟩
  exact List.mem_append_right _ holds.marked

section site
variable {host port path front after : List Char} (site : Site host port path)
include site

theorem Site.not_mem_port : '@' ∉ port := by
  rcases site.port with rfl | ⟨d, digits, rfl, fits⟩
  · exact List.not_mem_nil
  · rw [List.mem_cons, not_or]
    exact ⟨by decide, fun member => absurd (fits '@' member) (by decide)⟩

theorem Site.cut {c : Char} (written : host ++ (port ++ path) = front ++ c :: after)
    (plain : Each (· ∉ signs) front) (sign : c ∈ signs) :
    front = host ∧ c :: after = port ++ path := by
  have first : (front ++ c :: after).takeWhile (decide <| · ∉ signs) = front := by
    refine FirstMark.takeWhile_upTo (fun d member => decide_eq_true (plain d member)) fun d head => ?_
    cases head
    exact decide_eq_false (not_not.mpr sign)
  have second : (host ++ (port ++ path)).takeWhile (decide <| · ∉ signs) = host := by
    have inside : ∀ d ∈ host, decide (d ∉ signs) = true :=
      fun d member => decide_eq_true (site.host.plain d member)
    refine FirstMark.takeWhile_upTo inside fun d head => ?_
    have sign := head_after_host site.port site.path head
    exact decide_eq_false (not_not.mpr (List.mem_append_left ['@'] sign))
  have same : front = host := by rw [← first, ← written, second]
  rw [same] at written
  exact ⟨same, (List.append_cancel_left written).symm⟩

theorem Site.not_schemed (plain : Each (· ∉ signs) front) :
    host ++ (port ++ path) ≠ front ++ "://".toList ++ after := by
  intro written
  rw [List.append_assoc] at written
  obtain ⟨_, rest⟩ := site.cut written plain (by decide)
  rcases site.port with rfl | ⟨d, digits, rfl, fits⟩
  · rcases site.path with rfl | ⟨more, rfl⟩
    · cases rest
    · exact absurd (List.cons.inj rest).1 (by decide)
  · obtain ⟨_, next⟩ := List.cons.inj rest
    rw [← (List.cons.inj next).1] at fits
    exact absurd (fits '/' List.mem_cons_self) (by decide)

theorem Site.not_mail (plain : Each (· ∉ signs) front) (dotless : '.' ∉ front) :
    host ++ (port ++ path) ≠ front ++ ':' :: after := by
  intro written
  obtain ⟨same, _⟩ := site.cut written plain (by decide)
  rw [same] at dotless
  exact dotless site.host.dotted

theorem Site.not_address (plain : Each (· ∉ signs) front) :
    host ++ (port ++ path) ≠ front ++ '@' :: after := by
  intro written
  obtain ⟨_, rest⟩ := site.cut written plain (by decide)
  have head : (port ++ path).head? = some '@' := by rw [← rest, List.head?_cons]
  exact absurd (head_after_host site.port site.path head) (by decide)

end site

end NoteBoard.Proofs.LinkTexts
