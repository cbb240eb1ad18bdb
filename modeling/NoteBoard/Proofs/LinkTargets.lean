import Mathlib.Data.List.TakeWhile
import NoteBoard.Proofs.LinkTexts

/-! Targets of links. A link keeps its text as its target where it begins with a scheme that is
known, in the case that the list of schemes has, or with `mailto:` in any case. All others get one
put in front. -/

namespace NoteBoard.Proofs.LinkTargets
open AsciiLetters Link LinkSafety LinkTexts

theorem named_of_hasScheme {link : List Char} (known : hasScheme link = true) :
    ∃ name address, link = name ++ "://".toList ++ address ∧ Each (·.isAlpha = true) name := by
  obtain ⟨scheme, listed, led⟩ := List.any_eq_true.mp known
  obtain ⟨address, rfl⟩ := List.isPrefixOf_iff_prefix.mp led
  have each : ∀ scheme ∈ schemes,
      scheme.toList = scheme.toList.takeWhile Char.isAlpha ++ "://".toList := by decide
  refine ⟨scheme.toList.takeWhile Char.isAlpha, address, by rw [← each scheme listed], ?_⟩
  exact fun c member => List.mem_takeWhile_imp member

theorem named_of_isMailto {link : List Char} (mail : isMailto link = true) :
    ∃ name address, link = name ++ ':' :: address ∧ Each (·.isAlpha = true) name := by
  have lower : (link.take 7).map Char.toLower = "mailto".toList ++ [':'] := beq_iff_eq.mp mail
  obtain ⟨name, mark, split, named, marked⟩ := List.map_eq_append_iff.mp lower
  obtain ⟨c, rfl, colon⟩ := List.map_eq_singleton_iff.mp marked
  rw [eq_of_toLower colon (by decide)] at split
  refine ⟨name, link.drop 7, ?_, fun c member => ?_⟩
  · rw [← List.singleton_append, ← List.append_assoc, ← split, List.take_append_drop]
  · have letters : "mailto".toList.all Char.isAlpha = true := by decide
    have letter : c.toLower ∈ "mailto".toList := named ▸ List.mem_map_of_mem member
    exact isAlpha_of_toLower rfl (List.all_eq_true.mp letters _ letter)

private theorem lower_of_folds {word text : List Char} (folds : Folds word text)
    (strict : word.all (fun letter => letter != 's' && letter != 'k') = true) :
    text.map Char.toLower = word := by
  induction folds with
  | nil => rfl
  | @cons letter c word text here later ih =>
    rw [List.all_cons, Bool.and_eq_true, Bool.and_eq_true, bne_iff_ne, bne_iff_ne] at strict
    obtain ⟨⟨notS, notK⟩, rest⟩ := strict
    simp only [foldsTo, beq_false_of_ne notS, beq_false_of_ne notK, Bool.false_and, Bool.or_false,
      beq_iff_eq] at here
    rw [List.map_cons, here, ih rest]

private theorem isMailto_of_folds {name : List Char} (folds : Folds "mailto".toList name)
    (address : List Char) : isMailto (name ++ ':' :: address) = true := by
  have length : (name ++ [':']).length = 7 := by
    rw [List.length_append, ← folds.length_eq]
    rfl
  have front : (name ++ ':' :: address).take 7 = name ++ [':'] := by
    rw [← List.singleton_append, ← List.append_assoc, List.take_left' length]
  unfold isMailto
  rw [front, List.map_append, lower_of_folds folds (by decide)]
  rfl

/-- A link is kept exactly where one of the two tests holds, since whatever goes in front of it
makes it longer. -/
theorem target_eq_iff (link : String) :
    target link = link ↔ hasScheme link.toList = true ∨ isMailto link.toList = true := by
  rw [← String.toList_inj, target_toList, ← Bool.or_eq_true]
  unfold targetChars
  split
  next kept => exact iff_of_true rfl kept
  next changed =>
    refine iff_of_false (fun same => ?_) changed
    split at same
    · exact absurd (List.append_left_eq_self.mp same) (by decide)
    · exact absurd (List.append_left_eq_self.mp same) (by decide)

theorem target_of_mailto {link : String} {name address : List Char}
    (written : link.toList = name ++ ':' :: address) (folds : Folds "mailto".toList name) :
    target link = link :=
  (target_eq_iff link).mpr (Or.inr (written ▸ isMailto_of_folds folds address))

theorem targetChars_of_unmarked {link : List Char} (schemeless : hasScheme link = false)
    (mailless : isMailto link = false) : targetChars link =
      if isAddress link then "mailto:".toList ++ link else "http://".toList ++ link := by
  unfold targetChars
  rw [schemeless, mailless]
  rfl

theorem target_of_mailbox {link : String} (mailbox : Mailbox link.toList) :
    target link = "mailto:" ++ link := by
  have colonless : ':' ∉ link.toList := fun member =>
    mailbox.plain ':' member List.mem_cons_self
  have schemeless : hasScheme link.toList = false := by
    rw [Bool.eq_false_iff]
    intro known
    obtain ⟨name, address, written, _⟩ := named_of_hasScheme known
    rw [written] at colonless
    exact colonless (by simp)
  have mailless : isMailto link.toList = false := by
    rw [Bool.eq_false_iff]
    intro mail
    obtain ⟨name, address, written, _⟩ := named_of_isMailto mail
    rw [written] at colonless
    exact colonless (by simp)
  have address : isAddress link.toList = true := by
    have slashless : '/' ∉ link.toList := fun member =>
      mailbox.plain '/' member (by decide)
    simp [isAddress, mailbox.marked, slashless]
  rw [← String.toList_inj, target_toList, targetChars_of_unmarked schemeless mailless,
    if_pos address, String.toList_append]

theorem target_of_site {link : String} {host port path : List Char}
    (written : link.toList = host ++ (port ++ path)) (site : Site host port path) :
    target link = "http://" ++ link := by
  have schemeless : hasScheme link.toList = false := by
    rw [Bool.eq_false_iff]
    intro known
    obtain ⟨name, address, named, letters⟩ := named_of_hasScheme known
    exact site.not_schemed (letters.plain (by decide)) (written.symm.trans named)
  have mailless : isMailto link.toList = false := by
    rw [Bool.eq_false_iff]
    intro mail
    obtain ⟨name, address, named, letters⟩ := named_of_isMailto mail
    refine site.not_mail (letters.plain (by decide)) (fun dot => ?_) (written.symm.trans named)
    exact absurd (letters '.' dot) (by decide)
  have address : isAddress link.toList = false := by
    rw [isAddress, Bool.and_eq_false_imp, List.contains_iff_mem, written]
    intro marked
    have pathed : '@' ∈ path := by
      rcases List.mem_append.mp marked with inHost | later
      · exact absurd (by decide) (site.host.plain '@' inHost)
      · exact (List.mem_append.mp later).resolve_left site.not_mem_port
    rcases site.path with rfl | ⟨more, rfl⟩
    · cases pathed
    · simp
  rw [← String.toList_inj, target_toList, targetChars_of_unmarked schemeless mailless, address,
    String.toList_append]
  rfl

/-- The link begins with the scheme, the case of ASCII letters aside. -/
def Opens (scheme link : String) : Prop := scheme.toList <+: link.toList.map Char.toLower

instance (scheme link : String) : Decidable (Opens scheme link) :=
  inferInstanceAs (Decidable (_ <+: _))

section opens
variable {scheme link : String} (listed : scheme ∈ schemes) (opens : Opens scheme link)
include listed opens

/-- No scheme is the front of another, so only the one that the link begins with can be spelled
as listed. -/
private theorem hasScheme_iff : hasScheme link.toList = true ↔ scheme.toList <+: link.toList := by
  constructor
  · intro known
    obtain ⟨other, also, led⟩ := List.any_eq_true.mp known
    have exact : other.toList <+: link.toList := List.isPrefixOf_iff_prefix.mp led
    have lower : ∀ scheme ∈ schemes, scheme.toList.map Char.toLower = scheme.toList := by decide
    have apart : ∀ first ∈ schemes, ∀ second ∈ schemes, first.toList <+: second.toList →
        first = second := by decide
    have led : other.toList <+: link.toList.map Char.toLower := by
      rw [← lower other also]
      exact exact.map _
    rcases List.prefix_or_prefix_of_prefix led opens with shorter | longer
    · rwa [apart other also scheme listed shorter] at exact
    · rwa [apart scheme listed other also longer]
  · intro led
    exact List.any_eq_true.mpr ⟨scheme, listed, List.isPrefixOf_iff_prefix.mpr led⟩

private theorem isMailto_iff : isMailto link.toList = true ↔ scheme = "mailto://" := by
  have written : isMailto link.toList = true ↔
      "mailto:".toList <+: link.toList.map Char.toLower := by
    rw [isMailto, beq_iff_eq, List.prefix_iff_eq_take, List.map_take]
    exact eq_comm
  have apart : ∀ scheme ∈ schemes, scheme.toList <+: "mailto:".toList ∨
      "mailto:".toList <+: scheme.toList → scheme = "mailto://" := by decide
  rw [written]
  constructor
  · exact fun mail => apart scheme listed (List.prefix_or_prefix_of_prefix opens mail)
  · rintro rfl
    exact (List.prefix_append "mailto:".toList "//".toList).trans opens

private theorem target_of_other_case (changed : target link ≠ link) :
    target link = "http://" ++ link := by
  have unmarked := mt (target_eq_iff link).mpr changed
  rw [not_or, Bool.not_eq_true, Bool.not_eq_true] at unmarked
  have slash : '/' ∈ link.toList := by
    have slashes : ∀ scheme ∈ schemes, '/' ∈ scheme.toList := by decide
    obtain ⟨c, member, lower⟩ := List.mem_map.mp (opens.subset (slashes scheme listed))
    rwa [eq_of_toLower lower (by decide)] at member
  rw [← String.toList_inj, target_toList, targetChars_of_unmarked unmarked.1 unmarked.2,
    String.toList_append]
  simp [isAddress, slash]

end opens

private theorem isMailto_congr {first second : List Char}
    (alike : first.map Char.toLower = second.map Char.toLower) :
    isMailto first = isMailto second := by
  unfold isMailto
  rw [List.map_take, List.map_take, alike]

/-- A link that begins with a known scheme in any case keeps its text as its target if the scheme is
written as listed, in small letters, or is that of mail; or else `http://` goes in front of it. So
links that differ in case only are both kept or both changed unless just one of them has its scheme
as listed and neither is a mail link. -/
theorem kept_iff_scheme_as_listed (link : String) :
    (∀ scheme ∈ schemes, Opens scheme link →
      (target link = link ↔ scheme.toList <+: link.toList ∨ scheme = "mailto://") ∧
      (target link ≠ link → target link = "http://" ++ link)) ∧
    ∀ other : String, link.toList.map Char.toLower = other.toList.map Char.toLower →
      ((target link = link ↔ target other = other) ↔
        (hasScheme link.toList = true ↔ hasScheme other.toList = true) ∨
          isMailto link.toList = true) := by
  constructor
  · intro scheme listed opens
    rw [target_eq_iff, hasScheme_iff listed opens, isMailto_iff listed opens]
    exact ⟨Iff.rfl, target_of_other_case listed opens⟩
  · intro other alike
    rw [target_eq_iff, target_eq_iff, isMailto_congr alike]
    tauto

/-- A mail link in capitals is kept, and a scheme that is not listed makes no difference. -/
theorem capitals_kept :
    ("mailto://" ∈ schemes ∧ Opens "mailto://" "MAILTO://me@a.io" ∧
      target "MAILTO://me@a.io" = "MAILTO://me@a.io") ∧
    "FTP://a.io".toList.map Char.toLower = "ftp://a.io".toList.map Char.toLower ∧
      (target "FTP://a.io" = "FTP://a.io" ↔ target "ftp://a.io" = "ftp://a.io") := by
  have listed : "mailto://" ∈ schemes := by decide
  have opens : Opens "mailto://" "MAILTO://me@a.io" := by decide
  have alike : "FTP://a.io".toList.map Char.toLower = "ftp://a.io".toList.map Char.toLower := by
    decide
  refine ⟨⟨listed, opens, ?_⟩, alike, ?_⟩
  · exact ((kept_iff_scheme_as_listed _).1 _ listed opens).1.mpr (Or.inr rfl)
  · exact ((kept_iff_scheme_as_listed _).2 _ alike).mpr (Or.inl (by decide))

/-- The same link is kept in small letters and gets a second scheme in capitals. -/
theorem capitals_taken_for_host :
    scan "HTTP://x.com" = ["HTTP://x.com"] ∧ "http://" ∈ schemes ∧ Opens "http://" "HTTP://x.com" ∧
      target "HTTP://x.com" = "http://HTTP://x.com" ∧ target "http://x.com" = "http://x.com" := by
  decide +kernel

end NoteBoard.Proofs.LinkTargets
