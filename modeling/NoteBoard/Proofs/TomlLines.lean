import NoteBoard.Proofs.TomlValues

/-! Documents read back from their written form, line by line. -/

namespace NoteBoard.Proofs.TomlLines
open Toml TomlKeys TomlScalars TomlValues

/-- The lines of a text, before they build up any tables. -/
def linesOf? (text : String) : Option (List Line) := do
  let text ← unifyBreaks? (dropMark text.toList)
  lines? text.length text

theorem parse?_eq (text : String) : parse? text = (linesOf? text).bind ofLines? := by
  unfold parse? linesOf?
  cases unifyBreaks? (dropMark text.toList) <;> rfl

structure Fits (path : List String) : Prop where
  nonempty : path ≠ []
  short : path.length < depthLimit

inductive Fit : Line → Prop where
  | pair {path : List String} {value : Value} (fits : Fits path)
      (writable : Writable (depthLimit - 1) value) : Fit (.pair path value)
  | table {path : List String} (fits : Fits path) : Fit (.table path)
  | element {path : List String} (fits : Fits path) : Fit (.element path)

/-! Reading one line. -/

theorem writePath_start {path : List String} (nonempty : path ≠ []) :
    ∃ c rest, writePath path = c :: rest ∧ startsKey c = true := by
  cases path with
  | nil => exact absurd rfl nonempty
  | cons key path =>
    obtain ⟨c, rest, equal, starts⟩ := writeKey_start key
    cases path with
    | nil => exact ⟨c, rest, by rw [writePath_singleton, equal], starts⟩
    | cons second path =>
      exact ⟨c, rest ++ '.' :: writePath (second :: path), by rw [writePath_cons, equal]; rfl, starts⟩

theorem path?_bracket {path : List String} (fits : Fits path) (rest : List Char) :
    path? (writePath path ++ ']' :: rest) = some (path, ']' :: rest) := by
  have bracket : EndsKey (']' :: rest) := endsKey_cons rfl rest
  have kept : skipSpace (']' :: rest) = ']' :: rest := skipSpace_cons (by decide) rest
  unfold path?
  rw [keyPath?_written fits.nonempty (Nat.le_sub_one_of_lt fits.short) bracket, kept]
  rw [kept]
  simp

def startsLine (c : Char) : Bool := c == '[' || startsKey c

theorem write_start {line : Line} (fit : Fit line) :
    ∃ c rest, line.write = c :: rest ∧ startsLine c = true := by
  cases fit with
  | pair fits writable =>
    obtain ⟨c, rest, equal, starts⟩ := writePath_start fits.nonempty
    exact ⟨c, _, by rw [Line.write, equal]; rfl, by simp [startsLine, starts]⟩
  | table fits => exact ⟨'[', _, rfl, rfl⟩
  | element fits => exact ⟨'[', _, rfl, rfl⟩

theorem space_of_startsLine {c : Char} (starts : startsLine c = true) : isSpace c = false :=
  isSpace_of_kind starts (by decide) (by decide)

private theorem line?_written {line : Line} (fit : Fit line) (rest : List Char) :
    line? (line.write ++ '\n' :: rest) = some (line, '\n' :: rest) := by
  cases fit with
  | @pair path value fits writable =>
    have read := pair?_written writable (value?_written writable) fits.nonempty fits.short
      (ends_cons (c := '\n') (by decide) rest)
    obtain ⟨c, tail, start, starts⟩ := writePath_start fits.nonempty
    rw [start, List.cons_append, List.cons_append, List.cons_append] at read
    rw [Line.write, start, List.cons_append, List.cons_append, List.cons_append]
    unfold line?
    split
    next equal =>
      obtain ⟨rfl, _⟩ := List.cons.inj equal
      cases starts
    next equal =>
      obtain ⟨rfl, _⟩ := List.cons.inj equal
      cases starts
    next =>
      rw [read]
      rfl
  | @table path fits =>
    have read := path?_bracket fits ('\n' :: rest)
    obtain ⟨c, tail, start, starts⟩ := writePath_start fits.nonempty
    have written : (Line.table path).write ++ '\n' :: rest =
        '[' :: (writePath path ++ ']' :: '\n' :: rest) := by
      simp [Line.write]
    rw [written]
    rw [start, List.cons_append] at read ⊢
    unfold line?
    split
    next equal =>
      obtain ⟨rfl, _⟩ := List.cons.inj (List.cons.inj equal).2
      cases starts
    next equal =>
      obtain rfl := (List.cons.inj equal).2
      simp only [read, Option.bind_eq_bind, Option.bind_some]
      rfl
    next other => exact absurd rfl (other _)
  | @element path fits =>
    have read := path?_bracket fits (']' :: '\n' :: rest)
    have written : (Line.element path).write ++ '\n' :: rest =
        '[' :: '[' :: (writePath path ++ ']' :: ']' :: '\n' :: rest) := by
      simp [Line.write]
    rw [written]
    unfold line?
    simp only [read, Option.bind_eq_bind, Option.bind_some]
    rfl

/-! Reading all lines. -/

theorem writeLines_cons (line : Line) (doc : List Line) :
    writeLines (line :: doc) = line.write ++ '\n' :: writeLines doc := by
  simp [writeLines]

private theorem lineEnd?_of_startsLine {c : Char} (starts : startsLine c = true)
    (rest : List Char) :
    lineEnd? (c :: rest) = none := by
  have comment := ne_of_kind starts '#' (by decide)
  have newline := ne_of_kind starts '\n' (by decide)
  have kept : skipComment (c :: rest) = c :: rest := by
    unfold skipComment
    split
    next equal => exact absurd (List.cons.inj equal).1 comment
    next => rfl
  unfold lineEnd?
  rw [skipSpace_cons (space_of_startsLine starts), kept]
  split
  next equal => cases equal
  next equal => exact absurd (List.cons.inj equal).1 newline
  next => rfl

private theorem lines?_written {doc : List Line} (fit : ∀ line ∈ doc, Fit line) {limit : Nat}
    (enough : doc.length ≤ limit) : lines? limit (writeLines doc) = some doc := by
  induction doc generalizing limit with
  | nil => cases limit <;> rfl
  | cons line doc ih =>
    obtain ⟨limit, rfl⟩ := Nat.exists_eq_succ_of_ne_zero (Nat.ne_of_gt (Nat.zero_lt_of_lt enough))
    obtain ⟨here, others⟩ := List.forall_mem_cons.mp fit
    have later := ih others (Nat.le_of_succ_le_succ enough)
    have read := line?_written here (writeLines doc)
    obtain ⟨c, tail, start, starts⟩ := write_start here
    have solid := skipSpace_cons (space_of_startsLine starts) (tail ++ '\n' :: writeLines doc)
    have ended : lineEnd? ('\n' :: writeLines doc) = some (writeLines doc) := rfl
    rw [writeLines_cons]
    rw [start, List.cons_append] at read ⊢
    unfold lines?
    rw [lineEnd?_of_startsLine starts, solid, read]
    simp only [Option.bind_eq_bind, Option.bind_some, ended, later]
    rfl

/-! What is written has no carriage return and no byte order mark in front. -/

private theorem visible_line {line : Line} (fit : Fit line) :
    ∀ c ∈ line.write, isVisible c = true := by
  have equals : ∀ c ∈ " = ".toList, isVisible c = true := List.all_eq_true.mp rfl
  cases fit with
  | @pair path _ fits writable =>
    exact List.forall_mem_append.mpr
      ⟨List.forall_mem_append.mpr ⟨visible_writePath path, equals⟩, visible_write writable⟩
  | @table path fits =>
    exact List.forall_mem_cons.mpr
      ⟨rfl, List.forall_mem_append.mpr ⟨visible_writePath path, List.all_eq_true.mp rfl⟩⟩
  | @element path fits =>
    exact List.forall_mem_append.mpr
      ⟨List.forall_mem_append.mpr ⟨List.all_eq_true.mp rfl, visible_writePath path⟩,
        List.all_eq_true.mp rfl⟩

private theorem unifyBreaks?_of_no_return {text : List Char} (unbroken : '\r' ∉ text) :
    unifyBreaks? text = some text := by
  induction text with
  | nil => rfl
  | cons c text ih =>
    rw [List.mem_cons, not_or] at unbroken
    rw [unifyBreaks?, ih unbroken.2]
    · rfl
    · exact fun equal => unbroken.1 equal.symm

private theorem dropMark_writeLines {doc : List Line} (fit : ∀ line ∈ doc, Fit line) :
    dropMark (writeLines doc) = writeLines doc := by
  cases doc with
  | nil => rfl
  | cons line doc =>
    obtain ⟨c, tail, start, starts⟩ := write_start (fit line List.mem_cons_self)
    rw [writeLines_cons, start, List.cons_append]
    unfold dropMark
    split
    next equal => exact absurd (List.cons.inj equal).1 (ne_of_kind starts _ (by decide))
    next => rfl

private theorem length_writeLines (doc : List Line) : doc.length ≤ (writeLines doc).length := by
  induction doc with
  | nil => exact Nat.zero_le _
  | cons line doc ih =>
    rw [writeLines_cons]
    simp only [List.length_append, List.length_cons]
    omega

theorem linesOf?_write {doc : List Line} (fit : ∀ line ∈ doc, Fit line) :
    linesOf? (write doc) = some doc := by
  have unbroken : '\r' ∉ writeLines doc := by
    intro member
    obtain ⟨line, inside, member⟩ := List.mem_flatMap.mp member
    rcases List.mem_append.mp member with written | newline
    · cases visible_line (fit line inside) '\r' written
    · cases List.mem_singleton.mp newline
  unfold linesOf? write
  rw [String.toList_ofList, dropMark_writeLines fit, unifyBreaks?_of_no_return unbroken]
  exact lines?_written fit (length_writeLines doc)

end NoteBoard.Proofs.TomlLines
