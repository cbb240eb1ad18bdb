import NoteBoard.Proofs.AsciiLetters
import NoteBoard.Proofs.FirstMark
import NoteBoard.Toml.Writer

/-! Texts and keys read back from their written form. -/

namespace NoteBoard.Proofs.TomlKeys
open FirstMark Toml

/-! Text. -/

theorem hidden_small {c : Char} (hidden : isVisible c = false) : c.toNat < 128 := by
  unfold isVisible at hidden
  simp only [Bool.or_eq_false_iff, Bool.and_eq_false_iff, decide_eq_false_iff_not,
    bne_eq_false_iff_eq] at hidden
  omega

private theorem hexScalar?_of_hidden {c : Char} (hidden : isVisible c = false) :
    hexScalar? ['0', '0', Nat.digitChar (c.toNat / 16), Nat.digitChar (c.toNat % 16)] = some c := by
  have each : ∀ n < 128, hexScalar? ['0', '0', Nat.digitChar (n / 16), Nat.digitChar (n % 16)] =
      some (Char.ofNat n) := by decide +kernel
  rw [each c.toNat (hidden_small hidden), Char.ofNat_toNat]

theorem visible_digitChar : ∀ n < 16, isVisible (Nat.digitChar n) = true ∧
    Nat.digitChar n ≠ '"' ∧ Nat.digitChar n ≠ '\\' := by
  decide

theorem basicBody?_visible {c : Char} (visible : isVisible c = true) (unquoted : c ≠ '"')
    (plain : c ≠ '\\') (rest : List Char) :
    basicBody? (c :: rest) = (basicBody? rest).map fun (body, rest) => (c :: body, rest) := by
  cases rest with
  | nil => simp [basicBody?, visible]
  | cons d rest =>
    rw [basicBody?, if_pos visible]
    · rintro rfl
      exact unquoted rfl
    · rintro d rest rfl
      exact absurd rfl plain

private theorem basicBody?_writeChar (c : Char) (rest : List Char) :
    basicBody? (writeChar c ++ rest) =
      (basicBody? rest).map fun (body, rest) => (writeChar c ++ body, rest) := by
  unfold writeChar
  split
  next special => rfl
  next ordinary =>
    rw [Bool.or_eq_true, not_or, decide_eq_true_eq, decide_eq_true_eq] at ordinary
    split
    next visible => exact basicBody?_visible visible ordinary.1 ordinary.2 rest
    next hidden =>
      have small := hidden_small (Bool.eq_false_iff.mpr hidden)
      obtain ⟨high, highUnquoted, highPlain⟩ := visible_digitChar (c.toNat / 16) (by omega)
      obtain ⟨low, lowUnquoted, lowPlain⟩ := visible_digitChar (c.toNat % 16) (by omega)
      have zero := basicBody?_visible (c := '0') (by decide) (by decide) (by decide)
      change (basicBody? ('0' :: '0' :: _ :: _ :: rest)).map _ = _
      rw [zero, zero, basicBody?_visible high highUnquoted highPlain,
        basicBody?_visible low lowUnquoted lowPlain]
      simp only [Option.map_map]
      rfl

private theorem unescape?_plain {c : Char} (plain : c ≠ '\\') (rest : List Char) :
    unescape? (c :: rest) = (unescape? rest).map (c :: ·) := by
  rw [unescape?, if_neg plain]
  all_goals
    intros
    apply plain
    assumption

private theorem unescape?_writeChar (c : Char) (rest : List Char) :
    unescape? (writeChar c ++ rest) = (unescape? rest).map (c :: ·) := by
  unfold writeChar
  split
  next special =>
    rw [Bool.or_eq_true, decide_eq_true_eq, decide_eq_true_eq] at special
    rcases special with rfl | rfl
    · change (unescape? rest).bind _ = _
      cases unescape? rest <;> rfl
    · change (unescape? rest).bind _ = _
      cases unescape? rest <;> rfl
  next ordinary =>
    rw [Bool.or_eq_true, not_or, decide_eq_true_eq, decide_eq_true_eq] at ordinary
    split
    next visible => exact unescape?_plain ordinary.2 rest
    next hidden =>
      have named := hexScalar?_of_hidden (Bool.eq_false_iff.mpr hidden)
      change (hexScalar? ['0', '0', Nat.digitChar (c.toNat / 16), Nat.digitChar (c.toNat % 16)]).bind
        _ = _
      rw [named]
      change (unescape? rest).bind _ = _
      cases unescape? rest <;> rfl

theorem basic?_written (text rest : List Char) :
    basic? (text.flatMap writeChar ++ '"' :: rest) = some (text, rest) := by
  have body : basicBody? (text.flatMap writeChar ++ '"' :: rest) =
      some (text.flatMap writeChar, rest) := by
    induction text with
    | nil => rfl
    | cons c text ih =>
      rw [List.flatMap_cons, List.append_assoc, basicBody?_writeChar, ih]
      rfl
  have content : unescape? (text.flatMap writeChar) = some text := by
    clear body
    induction text with
    | nil => rfl
    | cons c text ih =>
      rw [List.flatMap_cons, unescape?_writeChar, ih]
      rfl
  unfold basic?
  rw [body]
  change (unescape? (text.flatMap writeChar)).bind _ = _
  rw [content]
  rfl

/-! Keys. -/

theorem bare_of_isBareKey {key : List Char} (bare : isBareKey key = true) :
    ∃ c rest, key = c :: rest ∧ ∀ d ∈ key, isBareKeyChar d = true := by
  unfold isBareKey at bare
  rw [Bool.and_eq_true, List.all_eq_true] at bare
  cases key with
  | nil => cases bare.1
  | cons c rest => exact ⟨c, rest, rfl, bare.2⟩

def startsKey (c : Char) : Bool := c == '"' || isBareKeyChar c

theorem writeKey_start (key : String) :
    ∃ c rest, writeKey key = c :: rest ∧ startsKey c = true := by
  unfold writeKey
  split
  next bare =>
    obtain ⟨c, rest, equal, fits⟩ := bare_of_isBareKey bare
    exact ⟨c, rest, equal, by simp [startsKey, fits c (by simp [equal])]⟩
  next => exact ⟨'"', _, rfl, rfl⟩

theorem ne_of_kind {kind : Char → Bool} {c : Char} (fits : kind c = true) (sign : Char)
    (other : kind sign = false) : c ≠ sign := by
  rintro rfl
  rw [fits] at other
  cases other

private theorem simpleKey?_bare {c : Char} (bare : isBareKeyChar c = true) (rest : List Char) :
    simpleKey? (c :: rest) =
      some (c :: rest.takeWhile isBareKeyChar, rest.dropWhile isBareKeyChar) := by
  unfold simpleKey?
  split
  next equal =>
    obtain ⟨rfl, _⟩ := List.cons.inj equal
    cases bare
  next equal =>
    obtain ⟨rfl, _⟩ := List.cons.inj equal
    cases bare
  next => simp [bare]

def EndsKey (rest : List Char) : Prop := ∀ c, rest.head? = some c → isBareKeyChar c = false

theorem endsKey_cons {c : Char} (ends : isBareKeyChar c = false) (rest : List Char) :
    EndsKey (c :: rest) := by
  rintro d head
  cases head
  exact ends

theorem simpleKey?_written (key : String) {rest : List Char} (ends : EndsKey rest) :
    simpleKey? (writeKey key ++ rest) = some (key.toList, rest) := by
  unfold writeKey
  split
  next bare =>
    obtain ⟨c, others, equal, fits⟩ := bare_of_isBareKey bare
    rw [equal] at fits ⊢
    have inside : ∀ d ∈ others, isBareKeyChar d = true := fun d member =>
      fits d (List.mem_cons_of_mem c member)
    rw [List.cons_append, simpleKey?_bare (fits c List.mem_cons_self), takeWhile_upTo inside ends,
      dropWhile_upTo inside ends]
  next =>
    simp only [writeText, List.cons_append, List.append_assoc, List.nil_append]
    exact basic?_written key.toList rest

theorem isSpace_of_kind {kind : Char → Bool} {c : Char} (fits : kind c = true)
    (space : kind ' ' = false) (tab : kind '\t' = false) : isSpace c = false := by
  simp [isSpace, ne_of_kind fits ' ' space, ne_of_kind fits '\t' tab]

theorem skipSpace_cons {c : Char} (solid : isSpace c = false) (rest : List Char) :
    skipSpace (c :: rest) = c :: rest :=
  List.dropWhile_cons_of_neg (by simp [solid])

theorem skipSpace_writeKey (key : String) (rest : List Char) :
    skipSpace (writeKey key ++ rest) = writeKey key ++ rest := by
  obtain ⟨c, tail, equal, starts⟩ := writeKey_start key
  rw [equal]
  exact skipSpace_cons (isSpace_of_kind starts (by decide) (by decide)) _

theorem writePath_singleton (key : String) : writePath [key] = writeKey key :=
  List.intercalate_singleton

theorem writePath_cons (key second : String) (path : List String) :
    writePath (key :: second :: path) = writeKey key ++ '.' :: writePath (second :: path) := by
  simp [writePath, List.intercalate_cons_cons]

theorem keyPath?_written {path : List String} (nonempty : path ≠ []) {limit : Nat}
    (short : path.length ≤ limit) {rest : List Char} (ends : EndsKey rest)
    (whole : (skipSpace rest).head? ≠ some '.') :
    keyPath? limit (writePath path ++ rest) = some (path, skipSpace rest) := by
  induction path generalizing limit with
  | nil => exact absurd rfl nonempty
  | cons key path ih =>
    obtain ⟨limit, rfl⟩ : ∃ less, limit = less + 1 :=
      Nat.exists_eq_succ_of_ne_zero (Nat.ne_of_gt (Nat.lt_of_lt_of_le (Nat.succ_pos _) short))
    cases path with
    | nil =>
      unfold keyPath?
      rw [writePath_singleton, skipSpace_writeKey, simpleKey?_written key ends]
      simp only [Option.bind_eq_bind, Option.bind_some, String.ofList_toList]
      split
      next equal => simp [equal] at whole
      next => rfl
    | cons second path =>
      have dot : EndsKey ('.' :: (writePath (second :: path) ++ rest)) := endsKey_cons rfl _
      have later := ih (List.cons_ne_nil _ _) (Nat.le_of_succ_le_succ short)
      unfold keyPath?
      rw [writePath_cons, List.append_assoc, List.cons_append, skipSpace_writeKey,
        simpleKey?_written key dot]
      simp only [Option.bind_eq_bind, Option.bind_some, String.ofList_toList]
      rw [skipSpace_cons (by decide)]
      simp only [later, Option.bind_some]
      rfl

/-! Nothing of a text or a key is written with a control character. -/

private theorem visible_writeChar (c : Char) : ∀ d ∈ writeChar c, isVisible d = true := by
  unfold writeChar
  split
  next special =>
    rw [Bool.or_eq_true, decide_eq_true_eq, decide_eq_true_eq] at special
    rcases special with rfl | rfl
    · exact List.all_eq_true.mp rfl
    · exact List.all_eq_true.mp rfl
  next =>
    split
    next visible => exact List.forall_mem_singleton.mpr visible
    next hidden =>
      have small := hidden_small (Bool.eq_false_iff.mpr hidden)
      have front : ∀ d ∈ "\\u00".toList, isVisible d = true := List.all_eq_true.mp rfl
      have high := (visible_digitChar (c.toNat / 16) (by omega)).1
      have low := (visible_digitChar (c.toNat % 16) (by omega)).1
      exact List.forall_mem_append.mpr
        ⟨front, List.forall_mem_cons.mpr ⟨high, List.forall_mem_singleton.mpr low⟩⟩

theorem visible_writeText (text : List Char) : ∀ c ∈ writeText text, isVisible c = true := by
  intro c member
  unfold writeText at member
  simp only [List.cons_append, List.mem_cons, List.mem_append, List.mem_flatMap, List.not_mem_nil,
    or_false] at member
  rcases member with rfl | ⟨d, _, inside⟩ | rfl
  · decide
  · exact visible_writeChar d c inside
  · decide

theorem visible_of_isAlphanum {c : Char} (letter : c.isAlphanum = true) : isVisible c = true := by
  have each : ∀ n < 128, (Char.ofNat n).isAlphanum = true → isVisible (Char.ofNat n) = true := by
    decide +kernel
  have visible := each c.toNat (AsciiLetters.ascii_of_isAlphanum letter)
  rw [Char.ofNat_toNat] at visible
  exact visible letter

theorem visible_writeKey (key : String) : ∀ c ∈ writeKey key, isVisible c = true := by
  unfold writeKey
  split
  next bare =>
    obtain ⟨_, _, _, fits⟩ := bare_of_isBareKey bare
    intro c member
    have key := fits c member
    unfold isBareKeyChar at key
    rw [Bool.or_eq_true, Bool.or_eq_true, beq_iff_eq, beq_iff_eq] at key
    rcases key with (letter | rfl) | rfl
    · exact visible_of_isAlphanum letter
    · decide
    · decide
  next => exact visible_writeText key.toList

theorem visible_writePath (path : List String) : ∀ c ∈ writePath path, isVisible c = true := by
  induction path with
  | nil => exact fun c member => absurd member List.not_mem_nil
  | cons key path ih =>
    cases path with
    | nil =>
      rw [writePath_singleton]
      exact visible_writeKey key
    | cons second path =>
      rw [writePath_cons]
      exact List.forall_mem_append.mpr
        ⟨visible_writeKey key, List.forall_mem_cons.mpr ⟨by decide, ih⟩⟩

end NoteBoard.Proofs.TomlKeys
