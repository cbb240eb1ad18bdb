import NoteBoard.Proofs.LinkTargets
import NoteBoard.Proofs.MatchPreference

/-! Texts that are links from end to end. The search could stop short of the end, or prefer another
kind of link; it does not, since a run stops only where its class does, a host where no label can
follow, and each kind of link has signs in places where no other kind has them. -/

namespace NoteBoard.Proofs.WholeLinks
open Link LinkSafety LinkTargets LinkTexts MatchOrder MatchPreference MatchTexts RegexMatches

def Whole (pattern : Regex) (text : String) : Prop :=
  ∃ ending, Reaches pattern (.start text.toList) ending ∧ ending.rest = []

theorem whole_of_end? {pattern : Regex} {text : String}
    (found : (pattern.end? (.start text.toList)).map (·.rest) = some []) : Whole pattern text := by
  obtain ⟨ending, taken, done⟩ := Option.map_eq_some_iff.mp found
  exact ⟨ending, end?_sound taken, done⟩

theorem stops_at_mark {allowed : Char → Bool} {mark : Regex} {text : List Char}
    {place ending : Cursor} (yields : Yields (· = text) mark) (reaches : Reaches mark place ending)
    (out : text.head?.map allowed = some false) :
    ∀ c, place.rest.head? = some c → allowed c = false := by
  obtain ⟨_, written, rfl⟩ := Yields.split yields reaches
  obtain ⟨d, first, barred⟩ := Option.map_eq_some_iff.mp out
  intro c head
  rw [written, List.head?_append, first] at head
  cases head
  exact barred

theorem stops_at_end {property : Char → Prop} {rest : List Char} (done : rest = []) :
    ∀ c, rest.head? = some c → property c := by
  intro c head
  rw [done] at head
  cases head

section stretch

private theorem endings_stretch_cons {c : Char} (inner : isInner c = true) (index : Nat)
    (before : Option Char) (rest : List Char) :
    endings stretch ⟨index, before, c :: rest⟩ =
      endings stretch ⟨index + 1, some c, rest⟩ ++
        endings (.one isLast) ⟨index, before, c :: rest⟩ := by
  have split (place : Cursor) : endings stretch place =
      (endings (.many isInner) place).flatMap (endings (.one isLast)) := rfl
  rw [split, split, endings_many_cons, if_pos inner, List.flatMap_append]
  simp

theorem ne_nil_of_sound {text : List Char} (sound : Sound text) : text ≠ [] := by
  rintro rfl
  obtain ⟨_, front, c, written, _⟩ := sound
  simp at written

theorem sound_suffix {before after : List Char} (sound : Sound (before ++ after))
    (nonempty : after ≠ []) : Sound after := by
  obtain ⟨inner, front, c, written, last⟩ := sound
  refine ⟨(List.forall_mem_append.mp inner).2, after.dropLast, c, ?_, last⟩
  have final := congrArg List.getLast? written
  rw [List.getLast?_concat, List.getLast?_append_of_ne_nil _ nonempty] at final
  exact (List.dropLast_append_getLast? c final).symm

/-- The run takes all of the text at first and gives the last character back. -/
theorem finishes_stretch {rest : List Char} (sound : Sound rest) (index : Nat)
    (before : Option Char) : Finishes stretch ⟨index, before, rest⟩ := by
  induction rest generalizing index before with
  | nil => exact absurd rfl (ne_nil_of_sound sound)
  | cons c rest ih =>
    have inner : isInner c = true := sound.inner c List.mem_cons_self
    unfold Finishes Prefers
    rw [endings_stretch_cons inner]
    cases rest with
    | nil =>
      obtain ⟨_, front, d, written, last⟩ := sound
      have same : c = d := by simpa using congrArg List.getLast? written
      have given : endings stretch ⟨index + 1, some c, []⟩ = [] := rfl
      rw [given, List.nil_append, endings_one_cons, if_pos (same ▸ last)]
      exact ⟨_, rfl, rfl⟩
    | cons d rest =>
      have later : Sound (d :: rest) := by
        rw [← List.singleton_append] at sound
        exact sound_suffix sound (List.cons_ne_nil _ _)
      obtain ⟨ending, prefers, done⟩ := ih later (index + 1) (some c)
      refine ⟨ending, ?_, done⟩
      rw [List.head?_append, prefers, Option.some_or]

theorem finishes_of_stretch {place ending : Cursor} (reaches : Reaches stretch place ending)
    (done : ending.rest = []) : Finishes stretch place :=
  finishes_stretch (Yields.whole stretch_sound reaches done) place.index place.before

end stretch

theorem finishes_schemed {place ending : Cursor} (sound : Sound place.rest)
    (reaches : Reaches schemed place ending) : Finishes schemed place := by
  obtain ⟨started, letter, more⟩ := exists_middle reaches
  obtain ⟨named, run, more⟩ := exists_middle more
  obtain ⟨address, mark, stretched⟩ := exists_middle more
  have stops : ∀ c, named.rest.head? = some c → isSchemeChar c = false :=
    stops_at_mark (yields_literal "://") mark (by decide)
  have remains : Sound address.rest := by
    obtain ⟨text, passes⟩ := (Reaches.seq letter (.seq run mark)).passes
    obtain ⟨link, written, also⟩ := Yields.split stretch_sound stretched
    rw [passes.written] at sound
    refine sound_suffix sound ?_
    rw [written]
    exact List.append_ne_nil_of_left_ne_nil (ne_nil_of_sound also) _
  obtain ⟨last, prefers, done⟩ := finishes_stretch remains address.index address.before
  have sized : Yields (·.length = 3) (Regex.literal "://") :=
    (yields_literal "://").imp fun _ same => congrArg List.length same
  refine ⟨last, (prefers_sized sized_one letter).seq ?_, done⟩
  exact (prefers_many run stops).seq ((prefers_sized sized mark).seq prefers)

private theorem finishes_mailto {place ending : Cursor} (reaches : Reaches mailto place ending)
    (done : ending.rest = []) : Finishes mailto place := by
  obtain ⟨named, name, more⟩ := exists_middle reaches
  obtain ⟨address, mark, stretched⟩ := exists_middle more
  obtain ⟨last, prefers, done⟩ := finishes_of_stretch stretched done
  have sized : Yields (·.length = 6) (anyCase "mailto") :=
    (yields_anyCase "mailto").imp fun _ folds => folds.length_eq.symm
  refine ⟨last, (prefers_sized sized name).seq ?_, done⟩
  exact (prefers_sized (sized_char ':') mark).seq prefers

section host
variable {place ending : Cursor}

theorem dropWhile_of_label (reaches : Reaches label place ending) :
    place.rest.dropWhile isLabelChar = '.' :: ending.rest := by
  obtain ⟨_, written, name, rfl, fits⟩ := Yields.split label_text reaches
  rw [written, List.append_assoc, List.dropWhile_append_of_pos fits]
  rfl

theorem label_only (place ending other : Cursor) (one : Reaches label place ending)
    (two : Reaches label place other) : other = ending := by
  have same := (dropWhile_of_label one).symm.trans (dropWhile_of_label two)
  exact (eq_of_reaches one two (congrArg List.length (List.cons.inj same).2)).symm

theorem fails_label {last after : List Char} (written : place.rest = last ++ after)
    (letters : Each (isFoldedLetter · = true) last)
    (stops : ∀ c, after.head? = some c → c ∈ [':', '/']) : Fails label place := by
  intro ending reaches
  have dot := dropWhile_of_label reaches
  rw [written, List.dropWhile_append] at dot
  split at dot
  · cases after with
    | nil => cases dot
    | cons c after =>
      have sign : c ∈ [':', '/'] := stops c rfl
      have ends : isLabelChar c = false := barred_of_mem (by decide) sign
      rw [List.dropWhile_cons, ends, if_neg Bool.false_ne_true] at dot
      rw [(List.cons.inj dot).1] at sign
      exact absurd sign (by decide)
  next some =>
    obtain ⟨c, rest, kept⟩ := List.exists_cons_of_ne_nil (mt List.isEmpty_iff.mpr some)
    have member : c ∈ last :=
      (List.dropWhile_sublist isLabelChar).subset (kept ▸ List.mem_cons_self)
    rw [kept] at dot
    rw [(List.cons.inj dot).1] at member
    exact absurd (letters '.' member) (by decide)

theorem prefers_labels (reaches : Reaches labels place ending) (stuck : Fails label ending) :
    Prefers labels place ending := by
  cases reaches with
  | seq first more =>
    refine Prefers.seq (prefers_only first fun other also => ?_) (prefers_star ?_ more stuck)
    · exact label_only _ _ _ first also
    · exact label_only

end host

/-- The last part of the domain has letters only, so all labels before it are taken. -/
private theorem finishes_email {place ending : Cursor} (reaches : Reaches email place ending)
    (done : ending.rest = []) : Finishes email place := by
  obtain ⟨full, box, more⟩ := exists_middle reaches
  obtain ⟨started, first, run⟩ := exists_middle box
  obtain ⟨domain, mark, more⟩ := exists_middle more
  obtain ⟨last, names, ends⟩ := exists_middle more
  obtain ⟨second, letter, more⟩ := exists_middle ends
  obtain ⟨final, more, edge⟩ := exists_middle more
  obtain ⟨third, other, others⟩ := exists_middle more
  have stops : ∀ c, full.rest.head? = some c → isMailboxChar c = false :=
    stops_at_mark (yields_char '@') mark (by decide)
  have stuck : Fails label last := by
    have folded : ∀ c : Char, c.isAlpha = true → isFoldedLetter c = true :=
      fun c fits => by simp [isFoldedLetter, fits]
    have letters : Yields (Each (isFoldedLetter · = true))
        (.seq (.one Char.isAlpha) (.seq (Regex.plus Char.isAlpha) .edge)) :=
      (yields_each folded).seq (((yields_each folded).seq (yields_each_many folded) each_append).seq
        (yields_edge each_nil) each_append) each_append
    exact fails_label (List.append_nil _).symm (Yields.whole letters ends done) (stops_at_end rfl)
  have complete : ∀ c, final.rest.head? = some c → c.isAlpha = false := by
    cases edge
    exact stops_at_end done
  have mailbox : Prefers (Regex.plus isMailboxChar) place full :=
    (prefers_sized sized_one first).seq (prefers_many run stops)
  have letters : Prefers (Regex.plus Char.isAlpha) second final :=
    (prefers_sized sized_one other).seq (prefers_many others complete)
  have host := (prefers_labels names stuck).seq
    ((prefers_sized sized_one letter).seq (letters.seq (prefers_sized sized_edge edge)))
  exact ⟨ending, mailbox.seq ((prefers_sized (sized_char '@') mark).seq host), done⟩

theorem isWord_of_isFoldedLetter {c : Char} (folded : isFoldedLetter c = true) :
    Text.isWord c = true := by
  simp only [isFoldedLetter, Bool.or_eq_true, beq_iff_eq] at folded
  rcases folded with (letter | rfl) | rfl
  · have alphanum : c.isAlphanum = true := by simp [Char.isAlphanum, letter]
    unfold Text.isWord
    rw [if_pos (AsciiLetters.ascii_of_isAlphanum alphanum), alphanum, Bool.true_or]
  · decide +kernel
  · decide +kernel

/-- The edge after it settles where the top level ends, since no edge lies between its letters. -/
private theorem topLevel_only {place host other : Cursor} (one : Reaches topLevel place host)
    (two : Reaches topLevel place other)
    (stops : ∀ c, host.rest.head? = some c → isFoldedLetter c = false) :
    other = host ∨ other.atEdge = false := by
  obtain ⟨first, written, ⟨_, folded⟩, _⟩ := last_of_yields topLevel_text one
  obtain ⟨second, again, ⟨nonempty, also⟩, last⟩ := last_of_yields topLevel_text two
  rcases List.append_eq_append_iff.mp (written.symm.trans again) with
    ⟨more, longer, left⟩ | ⟨more, shorter, left⟩
  · cases more with
    | nil => exact Or.inl (eq_of_reaches two one (congrArg List.length left).symm)
    | cons c more =>
      have letter : isFoldedLetter c = true := also c (by simp [longer])
      rw [stops c (by rw [left]; rfl)] at letter
      cases letter
  · cases more with
    | nil => exact Or.inl (eq_of_reaches two one (congrArg List.length left))
    | cons c more =>
      obtain ⟨d, ends⟩ := Option.isSome_iff_exists.mp (List.getLast?_isSome.mpr nonempty)
      have before : Text.isWord d = true :=
        isWord_of_isFoldedLetter (also d (List.mem_of_getLast? ends))
      have after : Text.isWord c = true := isWord_of_isFoldedLetter (folded c (by simp [shorter]))
      right
      unfold Cursor.atEdge
      rw [last, ends, left]
      simp [before, after]

private theorem prefers_port {place ending : Cursor} (reaches : Reaches port.opt place ending)
    (stops : ∀ c, ending.rest.head? = some c → c = '/') : Prefers port.opt place ending := by
  cases reaches with
  | preferred taken =>
    obtain ⟨marked, mark, more⟩ := exists_middle taken
    obtain ⟨started, digit, more⟩ := exists_middle more
    have complete : ∀ c, ending.rest.head? = some c → c.isDigit = false := by
      intro c head
      rw [stops c head]
      decide
    have digits := (prefers_sized sized_one digit).seq (prefers_upTo more complete)
    exact ((prefers_sized (sized_char ':') mark).seq digits).left
  | other nothing =>
    cases nothing
    refine Prefers.right (prefers_empty _) (fails_one fun c head => ?_)
    rw [stops c head]
    decide

private theorem finishes_path {place ending : Cursor} (reaches : Reaches path.opt place ending)
    (done : ending.rest = []) : Finishes path.opt place := by
  cases reaches with
  | preferred taken =>
    obtain ⟨middle, slash, more⟩ := exists_middle taken
    have slashed := prefers_sized (sized_char '/') slash
    cases more with
    | preferred stretched =>
      obtain ⟨last, prefers, done⟩ := finishes_of_stretch stretched done
      exact ⟨last, (slashed.seq prefers.left).left, done⟩
    | other nothing =>
      cases nothing
      have fails : Fails stretch ending := by
        intro other stretched
        obtain ⟨text, written, sound⟩ := Yields.split stretch_sound stretched
        rw [done] at written
        exact ne_nil_of_sound sound (List.append_eq_nil_iff.mp written.symm).1
      exact ⟨ending, (slashed.seq (Prefers.right (prefers_empty _) fails)).left, done⟩
  | other nothing =>
    cases nothing
    exact ⟨place, Prefers.right (prefers_empty _) (fails_one (stops_at_end done)), done⟩

private theorem finishes_bare {place ending : Cursor} (reaches : Reaches bare place ending)
    (done : ending.rest = []) : Finishes bare place := by
  obtain ⟨start, edge, more⟩ := exists_middle reaches
  obtain ⟨last, names, ends⟩ := exists_middle more
  obtain ⟨host, top, more⟩ := exists_middle ends
  obtain ⟨bound, border, more⟩ := exists_middle more
  obtain ⟨middle, ported, pathed⟩ := exists_middle more
  have path : Path middle.rest := Yields.whole path_text pathed done
  obtain ⟨port, written, digits⟩ := Yields.split port_text ported
  have signs : ∀ c, bound.rest.head? = some c → c ∈ [':', '/'] := by
    intro c head
    rw [written] at head
    exact head_after_host digits path head
  have complete : ∀ c, host.rest.head? = some c → c ∈ [':', '/'] := by
    cases border
    exact signs
  have stops : ∀ c, middle.rest.head? = some c → c = '/' := by
    intro c head
    rcases path with nothing | ⟨more, slashed⟩
    · rw [nothing] at head
      cases head
    · rw [slashed] at head
      cases head
      rfl
  have stuck : Fails label last := by
    obtain ⟨text, rest, _, letters⟩ := Yields.split topLevel_text top
    exact fails_label rest letters complete
  obtain ⟨final, prefers, done⟩ := finishes_path pathed done
  have bordered := (prefers_sized sized_edge border).seq ((prefers_port ported stops).seq prefers)
  refine ⟨final, (prefers_sized sized_edge edge).seq ((prefers_labels names stuck).seq ?_), done⟩
  refine prefers_seq_only top (fun other also => ?_) bordered
  refine (topLevel_only top also fun c head => ?_).imp_right fun inner ending more => ?_
  · exact barred_of_mem (by decide) (complete c head)
  · obtain ⟨_, onEdge, _⟩ := exists_middle more
    cases onEdge with
    | edge onEdge => exact Bool.false_ne_true (inner.symm.trans onEdge)

section alternatives
variable {place ending : Cursor}

private theorem finishes_of_mailto (reaches : Reaches mailto place ending)
    (done : ending.rest = []) :
    Finishes pattern place := by
  by_cases named : Fails schemed place
  · exact Finishes.right (Finishes.left (finishes_mailto reaches done)) named
  · obtain ⟨other, also⟩ := not_forall_not.mp named
    exact Finishes.left (finishes_schemed (Yields.whole mailto_sound reaches done) also)

private theorem fails_schemed_of_colonless (colonless : ':' ∉ place.rest) :
    Fails schemed place := by
  intro ending reaches
  obtain ⟨_, written, name, address, rfl, _⟩ := Yields.split schemed_text reaches
  exact colonless (by simp [written])

private theorem fails_mailto_of_colonless (colonless : ':' ∉ place.rest) : Fails mailto place := by
  intro ending reaches
  obtain ⟨_, written, name, address, rfl, _⟩ := Yields.split mailto_text reaches
  exact colonless (by simp [written])

private theorem finishes_of_email (reaches : Reaches email place ending) (done : ending.rest = []) :
    Finishes pattern place := by
  have mailbox : Mailbox place.rest := Yields.whole email_text reaches done
  have colonless : ':' ∉ place.rest := fun member => mailbox.plain ':' member List.mem_cons_self
  refine Finishes.right (Finishes.right (Finishes.left ?_) ?_) ?_
  · exact finishes_email reaches done
  · exact fails_mailto_of_colonless colonless
  · exact fails_schemed_of_colonless colonless

section site
variable {host port path : List Char} (site : Site host port path)
  (written : place.rest = host ++ (port ++ path))
include site written

private theorem fails_schemed_of_site : Fails schemed place := by
  intro ending reaches
  obtain ⟨_, left, name, address, rfl, letters⟩ := Yields.split schemed_text reaches
  rw [written, List.append_assoc] at left
  exact site.not_schemed (letters.plain (by decide)) left

private theorem fails_mailto_of_site : Fails mailto place := by
  intro ending reaches
  obtain ⟨_, left, name, address, rfl, folds⟩ := Yields.split mailto_text reaches
  have letters : Each (isFoldedLetter · = true) name := folded_of_folds (by decide) folds
  rw [written, List.append_assoc] at left
  refine site.not_mail (letters.plain (by decide)) (fun dot => ?_) left
  exact absurd (letters '.' dot) (by decide)

private theorem fails_email_of_site : Fails email place := by
  intro ending reaches
  obtain ⟨text, left, mailbox⟩ := Yields.split email_text reaches
  obtain ⟨front, after, rfl, fresh⟩ := List.eq_append_cons_of_mem mailbox.marked
  rw [written, List.append_assoc] at left
  refine site.not_address (fun c member sign => ?_) left
  have sign : c ∈ [':', '/'] ++ ['@'] := sign
  rcases List.mem_append.mp sign with early | final
  · exact mailbox.plain c (List.mem_append_left _ member) early
  · rw [List.mem_singleton.mp final] at member
    exact fresh member

end site

private theorem finishes_of_bare (reaches : Reaches bare place ending) (done : ending.rest = []) :
    Finishes pattern place := by
  obtain ⟨host, port, path, written, site⟩ := Yields.whole bare_text reaches done
  refine Finishes.right (Finishes.right (Finishes.right ?_ ?_) ?_) ?_
  · exact finishes_bare reaches done
  · exact fails_email_of_site site written
  · exact fails_mailto_of_site site written
  · exact fails_schemed_of_site site written

private theorem finishes_of_whole {text : String}
    (whole : Whole schemed text ∨ Whole mailto text ∨ Whole email text ∨ Whole bare text) :
    Finishes pattern (.start text.toList) := by
  rcases whole with ⟨_, reaches, done⟩ | ⟨_, reaches, done⟩ | ⟨_, reaches, done⟩ |
    ⟨_, reaches, done⟩
  · have sound := Yields.whole schemed_sound reaches done
    exact Finishes.left (finishes_schemed sound reaches)
  · exact finishes_of_mailto reaches done
  · exact finishes_of_email reaches done
  · exact finishes_of_bare reaches done

/-- A match of a whole text leaves nothing for other matches. -/
private theorem spans_of_finishes {pattern : Regex} {text : List Char} (nonempty : text ≠ [])
    (finishes : Finishes pattern (.start text)) :
    pattern.spans text = [⟨0, text.length, text⟩] := by
  obtain ⟨ending, prefers, done⟩ := finishes
  obtain ⟨passed, written, index⟩ := (Prefers.reaches prefers).passes
  rw [done, List.append_nil] at written
  have all : ending.index = text.length := by
    rw [index, ← written]
    exact Nat.zero_add _
  have found : pattern.end? (.start text) = some ending := by rw [end?_eq_head?, prefers]
  cases text with
  | nil => exact absurd rfl nonempty
  | cons c rest =>
    have size : ending.index - 0 = (c :: rest).length := by rw [all, Nat.sub_zero]
    unfold Regex.spans
    rw [spansFrom_hit found (by simp [size]), size, List.take_length, all]
    exact congrArg (_ :: ·) (spansFrom_covered pattern 1 (some c) rest)

end alternatives

/-- A text that one kind of link matches from end to end is found as one link, and the kind tells
the target: an address becomes a mail link, a mail link stays as it is, and a bare domain becomes a
web address, also where its path has an at sign. -/
theorem whole_links_found (text : String) :
    (Whole schemed text ∨ Whole mailto text ∨ Whole email text ∨ Whole bare text →
      scan text = [text]) ∧
    (Whole email text → target text = "mailto:" ++ text) ∧
    (Whole mailto text → target text = text) ∧
    (Whole bare text → target text = "http://" ++ text) := by
  refine ⟨fun whole => ?_, ?_, ?_, ?_⟩
  · have finishes := finishes_of_whole whole
    have sound : Sound text.toList := by
      obtain ⟨ending, prefers, done⟩ := finishes
      exact Yields.whole pattern_sound (Prefers.reaches prefers) done
    have one : spans text.toList = [⟨0, text.toList.length, text.toList⟩] :=
      spans_of_finishes (ne_nil_of_sound sound) finishes
    rw [scan, one, List.map_singleton, String.ofList_toList]
  · rintro ⟨ending, reaches, done⟩
    exact target_of_mailbox (Yields.whole email_text reaches done)
  · rintro ⟨ending, reaches, done⟩
    obtain ⟨name, address, written, folds⟩ := Yields.whole mailto_text reaches done
    exact target_of_mailto written folds
  · rintro ⟨ending, reaches, done⟩
    obtain ⟨host, port, path, written, site⟩ := Yields.whole bare_text reaches done
    exact target_of_site written site

/-- A path with an at sign, a mailbox that looks like a domain, and a mail link with a scheme. -/
theorem other_signs_inside :
    (Whole bare "a.io:80/@me" ∧ scan "a.io:80/@me" = ["a.io:80/@me"] ∧
      target "a.io:80/@me" = "http://a.io:80/@me") ∧
    (Whole email "a.io@b.info" ∧ scan "a.io@b.info" = ["a.io@b.info"] ∧
      target "a.io@b.info" = "mailto:a.io@b.info") ∧
    (Whole mailto "MAILTO://a" ∧ scan "MAILTO://a" = ["MAILTO://a"] ∧
      target "MAILTO://a" = "MAILTO://a") ∧
    Whole schemed "x://a.io" ∧ scan "x://a.io" = ["x://a.io"] := by
  have web : Whole bare "a.io:80/@me" := whole_of_end? (by decide +kernel)
  have box : Whole email "a.io@b.info" := whole_of_end? (by decide +kernel)
  have mail : Whole mailto "MAILTO://a" := whole_of_end? (by decide +kernel)
  have named : Whole schemed "x://a.io" := whole_of_end? (by decide +kernel)
  refine ⟨⟨web, ?_, ?_⟩, ⟨box, ?_, ?_⟩, ⟨mail, ?_, ?_⟩, named, ?_⟩
  · exact (whole_links_found _).1 (.inr (.inr (.inr web)))
  · exact (whole_links_found _).2.2.2 web
  · exact (whole_links_found _).1 (.inr (.inr (.inl box)))
  · exact (whole_links_found _).2.1 box
  · exact (whole_links_found _).1 (.inr (.inl mail))
  · exact (whole_links_found _).2.2.1 mail
  · exact (whole_links_found _).1 (.inl named)

end NoteBoard.Proofs.WholeLinks
