import NoteBoard.Proofs.LinkPlaces

/-! The shape of an annotated text, whatever links the walk is given. It keeps every stretch of the
text, and no link keeps a later one from its anchor: each is met at the first place where it occurs,
so at least as much of the text is left for the next one as its own place would leave. -/

namespace NoteBoard.Proofs.LinkWeaving
open Link LinkPlaces

/-- The text and its markup have the same stretches in the same order, and between them the text
has the links and the markup their anchors. -/
inductive Woven : List String → String → String → Prop where
  | rest (gap : String) : Woven [] gap gap
  | link (gap link : String) {links : List String} {text markup : String}
      (later : Woven links text markup) :
      Woven (link :: links) (gap ++ link ++ text)
        (gap ++ ("<a href=\"" ++ target link ++ "\" target=\"_blank\">" ++ link ++ "</a>") ++ markup)

/-- The links occur in the text at places that follow one another and do not overlap. -/
inductive InOrder : List String → String → Prop where
  | none (text : String) : InOrder [] text
  | next (gap link : String) {links : List String} {text : String} (later : InOrder links text) :
      InOrder (link :: links) (gap ++ link ++ text)

theorem InOrder.sooner {links : List String} {text : String} (inOrder : InOrder links text)
    (gap : String) : InOrder links (gap ++ text) := by
  cases inOrder with
  | none => exact .none _
  | next before link later =>
    rw [← String.append_assoc, ← String.append_assoc]
    exact .next (gap ++ before) link later

theorem InOrder.filter {links : List String} {text : String} (inOrder : InOrder links text)
    (kept : String → Bool) : InOrder (links.filter kept) text := by
  induction inOrder with
  | none text => exact .none text
  | next gap link later ih =>
    rw [List.filter_cons]
    split
    · exact .next gap link ih
    · exact ih.sooner _

/-- Taking the first occurrence of a link leaves the later ones where they are. -/
theorem InOrder.after_first {link : String} {links : List String} {text : String} {place : Nat}
    (inOrder : InOrder (link :: links) text)
    (unmet : ∀ sooner < place, ¬ link.toList <+: text.toList.drop sooner) :
    InOrder links (String.ofList (text.toList.drop (place + link.toList.length))) := by
  cases inOrder with
  | next gap _ later =>
    rename_i after
    have notLater : place ≤ gap.toList.length := by
      refine Nat.le_of_not_lt fun beyond => unmet _ beyond ?_
      rw [String.toList_append, String.toList_append, List.append_assoc, List.drop_left]
      exact List.prefix_append _ _
    have inside : place + link.toList.length ≤ (gap.toList ++ link.toList).length := by
      rw [List.length_append]
      exact Nat.add_le_add_right notLater _
    rw [String.toList_append, String.toList_append, List.drop_append_of_le_length inside,
      String.ofList_append, String.ofList_toList]
    exact later.sooner _

private theorem occurs_of_inOrder {link : String} {links : List String} {text : String}
    (inOrder : InOrder (link :: links) text) :
    ∃ place, link.toList <+: text.toList.drop place := by
  cases inOrder with
  | next gap _ later =>
    refine ⟨gap.toList.length, ?_⟩
    rw [String.toList_append, String.toList_append, List.append_assoc, List.drop_left]
    exact List.prefix_append _ _

private theorem markup_weaveFrom_absent {link text : List Char} (links : List (List Char))
    (absent : ∀ place, ¬ link <+: text.drop place) :
    markupOf (weaveFrom 0 (link :: links) text) = text := by
  induction text with
  | nil => rfl
  | cons c rest ih =>
    have step : weaveFrom 0 (link :: links) (c :: rest) =
        .char c :: weaveFrom 0 (link :: links) rest :=
      if_neg fun occurs => absent 0 (List.isPrefixOf_iff_prefix.mp occurs)
    rw [step]
    exact congrArg (c :: ·) (ih fun place => absent (place + 1))

private theorem ofList_anchor (link : String) :
    String.ofList (anchor link.toList) =
      "<a href=\"" ++ target link ++ "\" target=\"_blank\">" ++ link ++ "</a>" := by
  unfold anchor target
  simp only [String.ofList_append, String.ofList_toList]

theorem take_append_occurrence {link text : List Char} {place : Nat}
    (here : link <+: text.drop place) :
    text.take place ++ link ++ text.drop (place + link.length) = text := by
  obtain ⟨rest, split⟩ := here
  rw [← List.drop_drop, ← split, List.drop_left, List.append_assoc, split, List.take_append_drop]

/-- The walk weaves a first part of the links into the text, and all of them if they occur in
order. -/
theorem walk_weaves (links : List String) (nonempty : ∀ link ∈ links, link ≠ "") (text : String) :
    ∃ woven, woven <+: links ∧
      Woven woven text
        (String.ofList (markupOf (weaveFrom 0 (links.map String.toList) text.toList))) ∧
      (InOrder links text → woven = links) := by
  induction links generalizing text with
  | nil =>
    refine ⟨[], List.prefix_rfl, ?_, fun _ => rfl⟩
    rw [List.map_nil, markup_weaveFrom_nil, String.ofList_toList]
    exact .rest text
  | cons link links ih =>
    obtain ⟨filled, others⟩ := List.forall_mem_cons.mp nonempty
    rw [List.map_cons]
    by_cases somewhere : ∃ place, link.toList <+: text.toList.drop place
    · obtain ⟨place, here, unmet⟩ := first_occurrence somewhere
      have content : link.toList ≠ [] := mt String.toList_eq_nil_iff.mp filled
      obtain ⟨woven, some, weaves, all⟩ :=
        ih others (String.ofList (text.toList.drop (place + link.toList.length)))
      have whole : text = String.ofList (text.toList.take place) ++ link ++
          String.ofList (text.toList.drop (place + link.toList.length)) := by
        rw [← String.toList_inj, String.toList_append, String.toList_append, String.toList_ofList,
          String.toList_ofList, take_append_occurrence here]
      refine ⟨link :: woven, List.cons_prefix_cons.mpr ⟨rfl, some⟩, ?_, ?_⟩
      · rw [markup_weaveFrom_first (links.map String.toList) content here unmet,
          String.ofList_append, String.ofList_append, ofList_anchor]
        rw [String.toList_ofList] at weaves
        have weaving := Woven.link (String.ofList (text.toList.take place)) link weaves
        rwa [← whole] at weaving
      · intro inOrder
        rw [all (inOrder.after_first unmet)]
    · refine ⟨[], List.nil_prefix, ?_, fun inOrder => absurd (occurs_of_inOrder inOrder) somewhere⟩
      rw [markup_weaveFrom_absent _ (not_exists.mp somewhere), String.ofList_toList]
      exact .rest text

private theorem map_filter_nonempty (links : List String) :
    (links.map String.toList).filter (! ·.isEmpty) =
      (links.filter (· ≠ "")).map String.toList := by
  rw [List.filter_map]
  congr 2
  funext link
  rw [Function.comp_apply, Bool.eq_iff_iff, Bool.not_eq_true', List.isEmpty_eq_false_iff,
    decide_eq_true_eq, ne_eq, String.toList_eq_nil_iff]

theorem annotateWith_eq (links : List String) (text : String) :
    annotateWith links text = String.ofList (markupOf
      (weaveFrom 0 ((links.filter (· ≠ "")).map String.toList) text.toList)) := by
  unfold annotateWith weave
  rw [map_filter_nonempty]

/-- An annotated text is the text with the anchors of some first part of the links woven into it,
empty ones aside. If the links occur in the text one after the other, all of them have theirs. -/
theorem annotateWith_weaves (links : List String) (text : String) :
    ∃ woven, woven <+: links.filter (· ≠ "") ∧ Woven woven text (annotateWith links text) ∧
      (InOrder links text → woven = links.filter (· ≠ "")) := by
  obtain ⟨woven, some, weaves, all⟩ := walk_weaves (links.filter (· ≠ ""))
    (fun link member => by simpa using (List.mem_filter.mp member).2) text
  refine ⟨woven, some, ?_, fun inOrder => all (inOrder.filter _)⟩
  rwa [annotateWith_eq]

end NoteBoard.Proofs.LinkWeaving
