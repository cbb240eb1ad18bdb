import Mathlib.Data.List.Basic
import Mathlib.Tactic.Common
import NoteBoard.Proofs.DecimalText
import NoteBoard.Proofs.FormRoundTrip
import NoteBoard.Proofs.TomlKeys

/-! Texts, numbers, booleans, dates and times read back from their written form. They are read up to
the comma, bracket or line end that follows. -/

namespace NoteBoard.Proofs.TomlScalars
open FirstMark Toml TomlKeys

def endsValue (c : Char) : Bool := c == ',' || c == ']' || c == '\x7d' || c == '\n'

def Ends (rest : List Char) : Prop := ∀ c, rest.head? = some c → endsValue c = true

theorem ends_cons {c : Char} (ends : endsValue c = true) (rest : List Char) : Ends (c :: rest) := by
  rintro d head
  cases head
  exact ends

private theorem eq_of_endsValue {c : Char} (ends : endsValue c = true) :
    c = ',' ∨ c = ']' ∨ c = '\x7d' ∨ c = '\n' := by
  simpa [endsValue, or_assoc] using ends

theorem Ends.wordless {rest : List Char} (ends : Ends rest) :
    ∀ c, rest.head? = some c → isWordChar c = false := by
  intro c head
  rcases eq_of_endsValue (ends c head) with rfl | rfl | rfl | rfl <;> decide

/-- A text that is taken as one word: it has no blank, or one that stands between a date and a
time. -/
inductive OneWord : List Char → Prop where
  | plain {text : List Char} (inside : ∀ c ∈ text, isWordChar c = true) : OneWord text
  | dated {date time : List Char} {c : Char} (day : isDate date = true)
      (inside : ∀ d ∈ date, isWordChar d = true) (after : ∀ d ∈ c :: time, isWordChar d = true) :
      OneWord (date ++ ' ' :: c :: time)

private theorem word_append {text rest : List Char} (whole : OneWord text) (ends : Ends rest) :
    word (text ++ rest) = (text, rest) := by
  cases whole with
  | plain inside =>
    have front := takeWhile_upTo inside ends.wordless
    have back := dropWhile_upTo inside ends.wordless
    unfold word
    simp only [front, back]
    split
    next c tail => cases ends ' ' rfl
    next => rfl
  | @dated date time c day inside after =>
    have blank : ∀ d, (' ' :: (c :: time ++ rest)).head? = some d → isWordChar d = false := by
      rintro d head
      cases head
      decide
    have front := takeWhile_upTo inside blank
    have back := dropWhile_upTo inside blank
    have second := takeWhile_upTo after ends.wordless
    have tail := dropWhile_upTo after ends.wordless
    rw [List.append_assoc, List.cons_append, List.cons_append]
    rw [List.cons_append] at front back second tail
    unfold word
    simp only [front, back, day, after c List.mem_cons_self, Bool.and_self, if_true, second, tail]

private theorem quoted?_of_ne {c : Char} (double : c ≠ '"') (single : c ≠ '\'') (rest : List Char) :
    quoted? (c :: rest) = none := by
  unfold quoted?
  split
  case h_5 => rfl
  all_goals
    rename_i equal
    obtain ⟨rfl, _⟩ := List.cons.inj equal
    contradiction

theorem OneWord.start {text : List Char} (whole : OneWord text) (nonempty : text ≠ []) :
    ∃ c rest, text = c :: rest ∧ isWordChar c = true := by
  cases whole with
  | plain inside =>
    obtain ⟨c, rest, rfl⟩ := List.exists_cons_of_ne_nil nonempty
    exact ⟨c, rest, rfl, inside c List.mem_cons_self⟩
  | @dated date time d day inside =>
    cases date with
    | nil => cases day
    | cons c date => exact ⟨c, date ++ ' ' :: d :: time, rfl, inside c List.mem_cons_self⟩

/-- A boolean, a number, a date or a time that is written without quotes. -/
structure Bare (text : List Char) (value : Value) : Prop where
  whole : OneWord text
  read : bare? text = some value

theorem Bare.start {text : List Char} {value : Value} (bare : Bare text value) :
    ∃ c rest, text = c :: rest ∧ isWordChar c = true := by
  apply bare.whole.start
  rintro rfl
  have nothing : bare? [] = none := rfl
  rw [bare.read] at nothing
  cases nothing

theorem Bare.scalar {text rest : List Char} {value : Value} (bare : Bare text value)
    (ends : Ends rest) : scalar (text ++ rest) = some (value, rest) := by
  have unquoted : quoted? (text ++ rest) = none := by
    obtain ⟨c, tail, rfl, fits⟩ := bare.start
    apply quoted?_of_ne
    · rintro rfl
      cases fits
    · rintro rfl
      cases fits
  unfold Toml.scalar
  rw [unquoted, word_append bare.whole ends, bare.read]
  rfl

private theorem writeChar_start (c : Char) : ∃ d rest, writeChar c = d :: rest ∧ d ≠ '"' := by
  unfold writeChar
  split
  next => exact ⟨'\\', [c], rfl, by decide⟩
  next ordinary =>
    rw [Bool.or_eq_true, not_or, decide_eq_true_eq, decide_eq_true_eq] at ordinary
    split
    next => exact ⟨c, [], rfl, ordinary.1⟩
    next => exact ⟨'\\', _, rfl, by decide⟩

private theorem quoted?_single {text : List Char} (single : ∀ rest, text ≠ '"' :: '"' :: rest) :
    quoted? ('"' :: text) = basic? text := by
  unfold quoted?
  split
  case h_1 rest equal => exact absurd (List.cons.inj equal).2 (single rest)
  case h_2 equal => rw [(List.cons.inj equal).2]
  case h_3 equal => exact absurd (List.cons.inj equal).1 (by decide)
  case h_4 equal => exact absurd (List.cons.inj equal).1 (by decide)
  case h_5 _ other _ _ => exact absurd rfl (other text)

private theorem scalar_writeText (text : List Char) {rest : List Char} (ends : Ends rest) :
    scalar (writeText text ++ rest) = some (.text (String.ofList text), rest) := by
  have written : writeText text ++ rest = '"' :: (text.flatMap writeChar ++ '"' :: rest) := by
    simp [writeText]
  have single : ∀ more, text.flatMap writeChar ++ '"' :: rest ≠ '"' :: '"' :: more := by
    intro more equal
    cases text with
    | nil =>
      obtain ⟨_, rfl⟩ := List.cons.inj equal
      cases ends '"' rfl
    | cons c text =>
      obtain ⟨d, tail, start, unquoted⟩ := writeChar_start c
      rw [List.flatMap_cons, start] at equal
      exact unquoted (List.cons.inj equal).1
  unfold Toml.scalar
  rw [written, quoted?_single single, basic?_written]

theorem bare_boolean (value : Bool) : Bare (toString value).toList (.boolean value) := by
  cases value with
  | true => exact ⟨.plain (List.all_eq_true.mp rfl), rfl⟩
  | false => exact ⟨.plain (List.all_eq_true.mp rfl), rfl⟩

/-! Numbers. -/

private theorem eq_zero_of_leading_zero {n : Nat} (leads : (Nat.toDigits 10 n).head? = some '0') :
    n = 0 := by
  induction n using Nat.strongRecOn with
  | ind n ih =>
    by_cases small : n < 10
    · have digits : ∀ n < 10, Nat.digitChar n = '0' → n = 0 := by decide
      rw [Nat.toDigits_of_lt_base small, List.head?_cons] at leads
      exact digits n small (Option.some.inj leads)
    · rw [Nat.toDigits_of_base_le (by decide) (by omega),
        List.head?_append_of_ne_nil _ Nat.toDigits_ne_nil] at leads
      have tenth := ih (n / 10) (by omega) leads
      omega

theorem isDigit_of_mem {n : Nat} {c : Char} (member : c ∈ Nat.toDigits 10 n) : c.isDigit = true :=
  (DecimalText.digits_toDigits n).2 c member

theorem wholeDigits?_toDigits (n : Nat) :
    wholeDigits? (Nat.toDigits 10 n) = some (Nat.toDigits 10 n) := by
  have ungrouped : '_' ∉ Nat.toDigits 10 n := by
    intro member
    cases isDigit_of_mem member
  have digits : grouped? Char.isDigit (Nat.toDigits 10 n) = some (Nat.toDigits 10 n) := by
    unfold grouped?
    rw [FormRoundTrip.split_of_not_mem ungrouped]
    have numeric : (Nat.toDigits 10 n).all Char.isDigit = true :=
      List.all_eq_true.mpr fun c => isDigit_of_mem
    simp [numeric, Nat.toDigits_ne_nil]
  unfold wholeDigits?
  rw [digits, Option.bind_eq_bind, Option.bind_some, if_neg]
  rw [Bool.and_eq_true, decide_eq_true_eq, decide_eq_true_eq]
  rintro ⟨leads, longer⟩
  obtain rfl := eq_zero_of_leading_zero leads
  exact longer rfl

private theorem signed_toDigits (n : Nat) :
    signed (Nat.toDigits 10 n) = (false, Nat.toDigits 10 n) := by
  unfold signed
  split
  case h_1 equal =>
    have digit := isDigit_of_mem (n := n) (c := '-') (by rw [equal]; exact List.mem_cons_self)
    cases digit
  case h_2 equal =>
    have digit := isDigit_of_mem (n := n) (c := '+') (by rw [equal]; exact List.mem_cons_self)
    cases digit
  case h_3 => rfl

theorem toList_natural (n : Nat) : (toString (n : Int)).toList = Nat.toDigits 10 n := by
  change (toString n).toList = _
  rw [Nat.toString_eq_ofList_toDigits, String.toList_ofList]

theorem toList_negative (n : Nat) :
    (toString (Int.negSucc n)).toList = '-' :: Nat.toDigits 10 (n + 1) := by
  change ("-" ++ toString (n + 1)).toList = _
  rw [String.toList_append, Nat.toString_eq_ofList_toDigits, String.toList_ofList,
    String.toList_ofList]
  rfl

theorem char_of_number {number : Int} {c : Char} (member : c ∈ (toString number).toList) :
    c.isDigit = true ∨ c = '-' := by
  cases number with
  | ofNat n =>
    rw [Int.ofNat_eq_natCast, toList_natural] at member
    exact Or.inl (isDigit_of_mem member)
  | negSucc n =>
    rw [toList_negative, List.mem_cons] at member
    exact member.symm.imp_left isDigit_of_mem

private theorem decimal?_written (number : Int) :
    decimal? (toString number).toList = some number := by
  cases number with
  | ofNat n =>
    unfold decimal?
    rw [Int.ofNat_eq_natCast, toList_natural, signed_toDigits]
    simp only [wholeDigits?_toDigits, Option.bind_eq_bind, Option.bind_some,
      DecimalText.digitsValue_toDigits]
    rfl
  | negSucc n =>
    unfold decimal?
    rw [toList_negative, signed]
    simp only [wholeDigits?_toDigits, Option.bind_eq_bind, Option.bind_some,
      DecimalText.digitsValue_toDigits]
    rfl

private theorem integer?_written {number : Int} (storable : isStorable number = true) :
    integer? (toString number).toList = some number := by
  have decimal := decimal?_written number
  have signs : ∀ c ∈ (toString number).toList, c.isDigit = true ∨ c = '-' :=
    fun c => char_of_number
  generalize (toString number).toList = word at decimal signs
  have base : ∀ {c : Char} {digits : List Char}, word = '0' :: c :: digits →
      c ≠ 'x' ∧ c ≠ 'o' ∧ c ≠ 'b' := by
    rintro c digits rfl
    refine ⟨?_, ?_, ?_⟩
    all_goals
      rintro rfl
      have other := signs _ (List.mem_cons_of_mem _ List.mem_cons_self)
      simp at other
  unfold integer?
  split
  case h_1 => exact absurd rfl (base rfl).1
  case h_2 => exact absurd rfl (base rfl).2.1
  case h_3 => exact absurd rfl (base rfl).2.2
  case h_4 => rw [decimal, Option.filter_some, if_pos storable]

theorem bare_integer {number : Int} (storable : isStorable number = true) :
    Bare (toString number).toList (.integer number) := by
  constructor
  · refine .plain fun c member => ?_
    rcases char_of_number member with digit | rfl
    · simp [isWordChar, Char.isAlphanum, digit]
    · decide
  · have letterless : 'e' ∉ (toString number).toList := by
      intro member
      simpa using char_of_number member
    unfold bare?
    rw [if_neg, if_neg, integer?_written storable]
    · intro equal
      exact letterless (by rw [equal]; decide)
    · intro equal
      exact letterless (by rw [equal]; decide)

/-! The same inside other values. -/

theorem Bare.value? {text rest : List Char} {value : Value} (bare : Bare text value) (depth : Nat)
    (ends : Ends rest) : value? depth (text ++ rest) = some (value, rest) := by
  have read := bare.scalar ends
  obtain ⟨c, tail, rfl, fits⟩ := bare.start
  cases depth with
  | zero => exact read
  | succ depth =>
    rw [List.cons_append] at read ⊢
    unfold Toml.value?
    split
    case h_1 equal =>
      obtain ⟨rfl, _⟩ := List.cons.inj equal
      cases fits
    case h_2 equal =>
      obtain ⟨rfl, _⟩ := List.cons.inj equal
      cases fits
    case h_3 => exact read

theorem value?_writeText (depth : Nat) (content : String) {rest : List Char} (ends : Ends rest) :
    value? depth (writeText content.toList ++ rest) = some (.text content, rest) := by
  have read := scalar_writeText content.toList ends
  rw [String.ofList_toList] at read
  cases depth with
  | zero => exact read
  | succ depth => exact read

theorem OneWord.visible {text : List Char} (whole : OneWord text) :
    ∀ c ∈ text, isVisible c = true := by
  have word {c : Char} (fits : isWordChar c = true) : isVisible c = true := by
    unfold isWordChar at fits
    simp only [Bool.or_eq_true, beq_iff_eq] at fits
    rcases fits with ((((letter | rfl) | rfl) | rfl) | rfl) | rfl
    · exact visible_of_isAlphanum letter
    all_goals decide
  cases whole with
  | plain inside => exact fun c member => word (inside c member)
  | dated day inside after =>
    intro c member
    rcases List.mem_append.mp member with before | behind
    · exact word (inside c before)
    · rcases List.mem_cons.mp behind with rfl | behind
      · decide
      · exact word (after c behind)

end NoteBoard.Proofs.TomlScalars
