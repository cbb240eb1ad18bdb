import Mathlib.Data.List.Basic
import NoteBoard.Text.Split

/-! Cutting a text at the first occurrence of a mark. A stretch in which no occurrence can start,
whatever comes after it, is passed over as a whole. -/

namespace NoteBoard.Proofs.FirstMark

variable {α : Type} [DecidableEq α]

/-- Two texts differ at a place that both have. -/
def apart : List α → List α → Bool
  | first :: rest, other :: others => first != other || apart rest others
  | _, _ => false

/-- No occurrence of the mark starts in the stretch, whatever follows it. -/
def clear (mark : List α) : List α → Bool
  | [] => true
  | first :: rest => apart mark (first :: rest) && clear mark rest

/-- The mark ends the text and does not occur in it before. -/
def closes (mark text : List α) : Bool :=
  mark.isSuffixOf text && clear mark (text.take (text.length - mark.length))

theorem isPrefixOf?_of_apart {mark text : List α} (differ : apart mark text = true)
    (rest : List α) : mark.isPrefixOf? (text ++ rest) = none := by
  fun_induction apart mark text with
  | case1 first mark other others ih =>
    rw [Bool.or_eq_true, bne_iff_ne] at differ
    rw [List.cons_append, List.isPrefixOf?]
    by_cases same : first = other
    · rw [beq_iff_eq.mpr same, if_pos rfl]
      exact ih (differ.resolve_left (not_not_intro same))
    · rw [if_neg (by simpa using same)]
  | case2 => cases differ

private theorem apart_append {mark text : List α} (differ : apart mark text = true)
    (rest : List α) :
    apart mark (text ++ rest) = true := by
  fun_induction apart mark text with
  | case1 first mark other others ih =>
    rw [Bool.or_eq_true] at differ
    rw [List.cons_append, apart, Bool.or_eq_true]
    exact differ.imp_right ih
  | case2 => cases differ

theorem clear_append {mark first second : List α} (left : clear mark first = true)
    (right : clear mark second = true) : clear mark (first ++ second) = true := by
  induction first with
  | nil => exact right
  | cons c first ih =>
    rw [clear, Bool.and_eq_true] at left
    rw [List.cons_append, clear, Bool.and_eq_true]
    exact ⟨apart_append left.1 second, ih left.2⟩

theorem clear_of_not_mem {c : α} (mark : List α) {stretch : List α} (absent : c ∉ stretch) :
    clear (c :: mark) stretch = true := by
  induction stretch with
  | nil => rfl
  | cons first rest ih =>
    obtain ⟨other, later⟩ := not_or.mp (mt List.mem_cons.mpr absent)
    rw [clear, Bool.and_eq_true, apart, Bool.or_eq_true, bne_iff_ne]
    exact ⟨Or.inl other, ih later⟩

theorem cut?_mark {mark rest : List α} (nonempty : mark ≠ []) :
    Text.cut? mark (mark ++ rest) = some ([], rest) := by
  cases mark with
  | nil => exact absurd rfl nonempty
  | cons c mark =>
    have found : (c :: mark).isPrefixOf? (c :: mark ++ rest) = some rest :=
      List.isPrefixOf?_eq_some_iff_append_eq.mpr rfl
    rw [List.cons_append] at found ⊢
    unfold Text.cut?
    rw [found]

private theorem cut?_past {mark stretch : List α} (passed : clear mark stretch = true)
    (rest : List α) :
    Text.cut? mark (stretch ++ rest) =
      (Text.cut? mark rest).map fun found => (stretch ++ found.1, found.2) := by
  induction stretch with
  | nil => simp
  | cons first stretch ih =>
    rw [clear, Bool.and_eq_true] at passed
    have missed := isPrefixOf?_of_apart passed.1 rest
    rw [List.cons_append] at missed ⊢
    rw [Text.cut?, missed, ih passed.2, Option.map_map]
    rfl

theorem cut?_at {mark stretch : List α} (nonempty : mark ≠ []) (passed : clear mark stretch = true)
    (rest : List α) : Text.cut? mark (stretch ++ (mark ++ rest)) = some (stretch, rest) := by
  rw [cut?_past passed, cut?_mark nonempty]
  simp

theorem cut?_after {mark passed part : List α} (nonempty : mark ≠ [])
    (unmarked : clear mark passed = true) (closed : closes mark part = true) (rest : List α) :
    ∃ before, Text.cut? mark (passed ++ (part ++ rest)) = some (before, rest) := by
  rw [closes, Bool.and_eq_true, List.isSuffixOf_iff_suffix] at closed
  obtain ⟨⟨front, rfl⟩, unmarkedFront⟩ := closed
  rw [List.length_append, Nat.add_sub_cancel, List.take_left] at unmarkedFront
  refine ⟨passed ++ front, ?_⟩
  rw [List.append_assoc, ← List.append_assoc]
  exact cut?_at nonempty (clear_append unmarked unmarkedFront) rest

theorem cut?_before {mark : α} {text : List α} (rest : List α) (absent : mark ∉ text) :
    Text.cut? [mark] (text ++ mark :: rest) = some (text, rest) :=
  cut?_at (List.cons_ne_nil _ _) (clear_of_not_mem [] absent) rest

/-! A value without a character of the mark may stand before a template. An occurrence cannot lie in
the value, and one that starts there and goes on in the template is ruled out by the template alone. -/

/-- No end of what the mark has up to its first `limit` goes on with the template. -/
def severed (limit : α) : List α → List α → Bool
  | [], _ => false
  | first :: mark, template =>
    apart (first :: mark) template && (first == limit || severed limit mark template)

def passes (limit : α) (mark template : List α) : Bool :=
  severed limit mark template && clear mark template

/-- The mark ends the template and does not occur before, whatever value stands in front. -/
def opens (limit : α) (mark template : List α) : Bool :=
  closes mark template && severed limit mark (template.take (template.length - mark.length))

private theorem apart_value {limit : α} {mark value template : List α} (absent : limit ∉ value)
    (cut : severed limit mark template = true) : apart mark (value ++ template) = true := by
  induction value generalizing mark with
  | nil =>
    cases mark with
    | nil => cases cut
    | cons first mark =>
      rw [severed, Bool.and_eq_true] at cut
      exact cut.1
  | cons c value ih =>
    cases mark with
    | nil => cases cut
    | cons first mark =>
      rw [List.mem_cons, not_or] at absent
      rw [severed, Bool.and_eq_true, Bool.or_eq_true, beq_iff_eq] at cut
      rw [List.cons_append, apart, Bool.or_eq_true, bne_iff_ne]
      by_cases same : first = c
      · apply Or.inr
        apply ih absent.2
        exact cut.2.resolve_left fun limited => absent.1 (limited.symm.trans same)
      · exact Or.inl same

theorem clear_value {limit : α} {mark value template : List α} (absent : limit ∉ value)
    (cut : severed limit mark template = true) (unmarked : clear mark template = true) :
    clear mark (value ++ template) = true := by
  induction value with
  | nil => exact unmarked
  | cons c value ih =>
    have here := apart_value absent cut
    rw [List.mem_cons, not_or] at absent
    rw [List.cons_append, clear, Bool.and_eq_true]
    exact ⟨here, ih absent.2⟩

theorem clear_of_passes {limit : α} {mark value template : List α} (absent : limit ∉ value)
    (passed : passes limit mark template = true) : clear mark (value ++ template) = true := by
  rw [passes, Bool.and_eq_true] at passed
  exact clear_value absent passed.1 passed.2

theorem closes_of_opens {limit : α} {mark value template : List α} (absent : limit ∉ value)
    (opened : opens limit mark template = true) : closes mark (value ++ template) = true := by
  rw [opens, closes, Bool.and_eq_true, Bool.and_eq_true, List.isSuffixOf_iff_suffix] at opened
  obtain ⟨⟨⟨front, rfl⟩, unmarked⟩, cut⟩ := opened
  rw [List.length_append, Nat.add_sub_cancel, List.take_left] at unmarked cut
  rw [closes, Bool.and_eq_true, List.isSuffixOf_iff_suffix, ← List.append_assoc,
    List.length_append, Nat.add_sub_cancel, List.take_left]
  exact ⟨List.suffix_append _ _, clear_value absent cut unmarked⟩

/-! A stretch of what fits ends before the first that does not. -/

section stretch
variable {β : Type} {fits : β → Bool} {body rest : List β} (inside : ∀ c ∈ body, fits c = true)
  (outside : ∀ c, rest.head? = some c → fits c = false)
include inside outside

theorem takeWhile_upTo : (body ++ rest).takeWhile fits = body := by
  rw [List.takeWhile_append_of_pos inside]
  cases rest with
  | nil => exact List.append_nil body
  | cons c rest =>
    rw [List.takeWhile_cons, outside c rfl, if_neg Bool.false_ne_true, List.append_nil]

theorem dropWhile_upTo : (body ++ rest).dropWhile fits = rest := by
  rw [List.dropWhile_append_of_pos inside]
  cases rest with
  | nil => rfl
  | cons c rest => rw [List.dropWhile_cons, outside c rfl, if_neg Bool.false_ne_true]

end stretch

end NoteBoard.Proofs.FirstMark
