import Mathlib.Data.Nat.Bitwise
import NoteBoard.Proofs.IssuerHistory

/-! The secrets of an issuer against its stream of draws. A secret is made of the letters that the
draws from its start on give, in their order and none left out, and it takes no draw more than it
needs. The next secret starts with the draw after these, whatever the last one still held. -/

namespace NoteBoard.Proofs.SecretLetters
open IssuerHistory Secret

/-- Six bits each above the lowest bit of a draw, the lowest group first. -/
def groups (draw : UInt64) : List Nat :=
  (List.range 10).map fun n => (draw.toBitVec.extractLsb' (6 * n + 1) 6).toNat

/-- The letter that a group below 52 numbers, the small letters first. -/
def letter (group : Nat) : Char :=
  if group < 26 then Char.ofNat ('a'.toNat + group) else Char.ofNat ('A'.toNat + (group - 26))

def accepted (groups : List Nat) : List Char := (groups.filter (· < 52)).map letter

def lettersFrom (draws : Nat → UInt64) (position count : Nat) : List Char :=
  (List.range count).flatMap fun n => accepted (groups (draws (position + n)))

/-- The secrets that draws spell from a position on, and the position after the last one. Each takes
the first draws that hold enough letters for it. -/
inductive Spells (draws : Nat → UInt64) : Nat → List String → Nat → Prop where
  | nil {position : Nat} : Spells draws position [] position
  | cons {position count last : Nat} {secrets : List String}
      (enough : 100 ≤ (lettersFrom draws position count).length)
      (sparing : ∀ fewer < count, (lettersFrom draws position fewer).length < 100)
      (rest : Spells draws (position + count) secrets last) :
      Spells draws position
        (String.ofList ((lettersFrom draws position count).take 100).reverse :: secrets) last

/-- No issue of a run looks for letters for ever. -/
def Ends (issuer : Issuer) : List Call → Prop
  | [] => True
  | .validate _ :: calls => Ends issuer calls
  | .issue :: calls =>
    (fill issuer.draws (.start issuer.draws issuer.position)).isSome = true ∧
      Ends issuer.issue.2 calls

private theorem getElem?_alphabet (group : Nat) :
    alphabet[group]?.toList = accepted [group] := by
  have numbered : ∀ group < 52, alphabet[group]?.toList = accepted [group] := by decide +kernel
  by_cases known : group < 52
  · exact numbered group known
  · have beyond : alphabet.length ≤ group := by
      have size : alphabet.length = 52 := by decide +kernel
      omega
    rw [List.getElem?_eq_none beyond]
    simp [accepted, known]

private theorem accepted_append (first second : List Nat) :
    accepted (first ++ second) = accepted first ++ accepted second := by
  simp [accepted]

private theorem isAlpha_of_mem_accepted {groups : List Nat} {c : Char}
    (member : c ∈ accepted groups) :
    c.isAlpha = true := by
  have each : ∀ group < 52, (letter group).isAlpha = true := by decide +kernel
  obtain ⟨group, kept, rfl⟩ := List.mem_map.mp member
  exact each group (by simpa using (List.mem_filter.mp kept).2)

theorem lettersFrom_succ (draws : Nat → UInt64) (position count : Nat) :
    lettersFrom draws position (count + 1) =
      lettersFrom draws position count ++ accepted (groups (draws (position + count))) := by
  simp [lettersFrom, List.range_succ]

theorem length_lettersFrom_mono (draws : Nat → UInt64) (position : Nat) {fewer count : Nat}
    (le : fewer ≤ count) :
    (lettersFrom draws position fewer).length ≤ (lettersFrom draws position count).length := by
  induction count, le using Nat.le_induction with
  | base => exact Nat.le_refl _
  | succ count _ ih =>
    rw [lettersFrom_succ, List.length_append]
    omega

def left (cache : UInt64) : Nat → List Nat
  | 0 => []
  | remaining + 1 => (cache &&& 63).toNat :: left (cache >>> 6) remaining

private theorem left_eq (cache : UInt64) (remaining : Nat) :
    left cache remaining = (List.range remaining).map fun n => cache.toNat >>> (6 * n) % 64 := by
  induction remaining generalizing cache with
  | zero => rfl
  | succ remaining ih =>
    have lowest : (cache &&& 63).toNat = cache.toNat % 64 := by
      rw [UInt64.toNat_and]
      exact Nat.and_two_pow_sub_one_eq_mod _ 6
    have shifted : (cache >>> 6).toNat = cache.toNat >>> 6 := UInt64.toNat_shiftRight cache 6
    rw [left, ih, List.range_succ_eq_map, List.map_cons, List.map_map, lowest, shifted]
    congr 1
    apply List.map_congr_left
    intro n _
    rw [Function.comp_apply, ← Nat.shiftRight_add, Nat.mul_succ, Nat.add_comm]

theorem left_draw (draw : UInt64) : left (draw >>> 1) groupsPerDraw = groups draw := by
  have shifted : (draw >>> 1).toNat = draw.toNat >>> 1 := UInt64.toNat_shiftRight draw 1
  rw [left_eq, shifted]
  apply List.map_congr_left
  intro n _
  rw [BitVec.extractLsb'_toNat, ← Nat.shiftRight_add, Nat.add_comm, UInt64.toNat_toBitVec]

/-- How the letters so far, and those still to be found in the cache, come from the draws since the
start of a secret. The draws before the last one gave too few. -/
structure Gathers (draws : Nat → UInt64) (start count : Nat) (filling : Filling) : Prop where
  position : filling.position = start + (count + 1)
  gathered : filling.letters.reverse ++ accepted (left filling.cache filling.remaining) =
    lettersFrom draws start (count + 1)
  sparing : (lettersFrom draws start count).length < size
  within : filling.letters.length ≤ size

variable {draws : Nat → UInt64} {start count : Nat} {filling full : Filling}

theorem gathers_start (draws : Nat → UInt64) (start : Nat) :
    Gathers draws start 0 (.start draws start) := by
  refine ⟨rfl, ?_, (by decide : 0 < size), Nat.zero_le _⟩
  rw [lettersFrom_succ]
  change accepted (left (draws start >>> 1) groupsPerDraw) = _
  rw [left_draw]
  rfl

theorem Gathers.used (gathers : Gathers draws start count filling)
    (spent : filling.remaining = 0) :
    filling.letters.reverse = lettersFrom draws start (count + 1) := by
  have gathered := gathers.gathered
  rw [spent] at gathered
  simpa [left, accepted] using gathered

theorem Gathers.draw (gathers : Gathers draws start count filling) (spent : filling.remaining = 0)
    (short : filling.letters.length < size) :
    Gathers draws start (count + 1) (filling.draw draws) := by
  have used := gathers.used spent
  constructor
  · exact congrArg (· + 1) gathers.position
  · change filling.letters.reverse ++
      accepted (left (draws filling.position >>> 1) groupsPerDraw) = _
    rw [left_draw, used, gathers.position, ← lettersFrom_succ]
  · rwa [← used, List.length_reverse]
  · exact gathers.within

theorem round_eq_of_spent (spent : filling.remaining = 0) :
    filling.round draws = (filling.draw draws).round draws := by
  have fresh : (filling.draw draws).remaining ≠ 0 := (by decide : groupsPerDraw ≠ 0)
  simp only [Filling.round, if_pos spent, if_neg fresh]

theorem round_eq_of_left {remaining : Nat} (held : filling.remaining = remaining + 1) :
    filling.round draws = { filling with
      cache := filling.cache >>> 6
      remaining
      letters := alphabet[(filling.cache &&& 63).toNat]?.toList ++ filling.letters } := by
  have unspent : filling.remaining ≠ 0 := by omega
  simp only [Filling.round, if_neg unspent]
  rw [held]
  cases alphabet[(filling.cache &&& 63).toNat]? <;> rfl

theorem Gathers.round_of_left {remaining : Nat} (gathers : Gathers draws start count filling)
    (held : filling.remaining = remaining + 1) (short : filling.letters.length < size) :
    Gathers draws start count (filling.round draws) := by
  rw [round_eq_of_left held]
  constructor
  · exact gathers.position
  · have gathered := gathers.gathered
    rw [held, left, ← List.singleton_append, accepted_append, ← List.append_assoc] at gathered
    rw [← gathered, ← getElem?_alphabet]
    dsimp only
    cases alphabet[(filling.cache &&& 63).toNat]? <;> simp
  · exact gathers.sparing
  · have bound := Option.length_toList_le (o := alphabet[(filling.cache &&& 63).toNat]?)
    rw [List.length_append]
    omega

theorem Gathers.round (gathers : Gathers draws start count filling)
    (short : filling.letters.length < size) :
    ∃ later, Gathers draws start later (filling.round draws) := by
  cases held : filling.remaining with
  | zero =>
    rw [round_eq_of_spent held]
    exact ⟨_, (gathers.draw held short).round_of_left rfl short⟩
  | succ remaining => exact ⟨_, gathers.round_of_left held short⟩

theorem Gathers.rounds (gathers : Gathers draws start count filling) (n : Nat) :
    ∃ later, Gathers draws start later (Secret.rounds draws n filling) := by
  induction n generalizing count filling with
  | zero => exact ⟨count, gathers⟩
  | succ n ih =>
    unfold Secret.rounds
    split
    next short =>
      obtain ⟨_, next⟩ := gathers.round short
      exact ih next
    next => exact ⟨count, gathers⟩

theorem rounds_of_full (enough : size ≤ filling.letters.length) (n : Nat) :
    rounds draws n filling = filling := by
  cases n with
  | zero => rfl
  | succ n =>
    unfold rounds
    rw [if_neg (Nat.not_lt_of_le enough)]

theorem rounds_add (first more : Nat) (filling : Filling) :
    rounds draws (first + more) filling = rounds draws more (rounds draws first filling) := by
  induction first generalizing filling with
  | zero => rw [Nat.zero_add, rounds]
  | succ first ih =>
    rw [Nat.succ_add, rounds, rounds]
    split
    next => exact ih _
    next enough => rw [rounds_of_full (Nat.le_of_not_lt enough)]

/-- So many rounds fill a secret. -/
def FilledBy (draws : Nat → UInt64) (n : Nat) (filling full : Filling) : Prop :=
  Secret.rounds draws n filling = full ∧ size ≤ full.letters.length

theorem filledBy_add {first more : Nat} :
    FilledBy draws (first + more) filling full ↔
      FilledBy draws more (rounds draws first filling) full := by
  unfold FilledBy
  rw [rounds_add]

theorem FilledBy.later {n : Nat} (filled : FilledBy draws n filling full) (more : Nat) :
    FilledBy draws (n + more) filling full := by
  obtain ⟨rfl, enough⟩ := filled
  exact ⟨by rw [rounds_add, rounds_of_full enough], enough⟩

private theorem filledBy_of_resume (ended : filling.resume draws = some full) :
    ∃ n, FilledBy draws n filling full := by
  refine Filling.resume.partial_correctness draws
    (fun filling full => ∃ n, FilledBy draws n filling full) ?_ filling full ended
  intro later ih filling full ended
  split at ended
  next =>
    obtain ⟨n, filled⟩ := ih _ _ ended
    exact ⟨batch + n, filledBy_add.mpr filled⟩
  next enough =>
    cases ended
    exact ⟨0, rfl, Nat.le_of_not_lt enough⟩

theorem resume_of_full (enough : size ≤ full.letters.length) : full.resume draws = some full := by
  rw [Filling.resume, if_neg (Nat.not_lt_of_le enough)]

private theorem resume_of_filledBy {batches : Nat}
    (filled : FilledBy draws (batches * batch) filling full) :
    filling.resume draws = some full := by
  induction batches generalizing filling with
  | zero =>
    rw [Nat.zero_mul] at filled
    obtain ⟨rfl, enough⟩ := filled
    exact resume_of_full enough
  | succ batches ih =>
    by_cases short : filling.letters.length < size
    · rw [Filling.resume, if_pos short]
      rw [Nat.succ_mul, Nat.add_comm] at filled
      exact ih (filledBy_add.mp filled)
    · have enough := Nat.le_of_not_lt short
      have same := filled.1
      rw [rounds_of_full enough] at same
      rw [← same]
      exact resume_of_full enough

private theorem fill_eq (filling : Filling) :
    fill draws filling = (rounds draws batch filling).resume draws := by
  unfold fill
  dsimp only
  split
  next => rfl
  next enough => exact (resume_of_full (Nat.le_of_not_lt enough)).symm

theorem fill_eq_some_iff : fill draws filling = some full ↔ ∃ n, FilledBy draws n filling full := by
  rw [fill_eq]
  constructor
  · intro ended
    obtain ⟨n, filled⟩ := filledBy_of_resume ended
    exact ⟨batch + n, filledBy_add.mpr filled⟩
  · rintro ⟨n, filled⟩
    have much : n ≤ batch + n * batch :=
      (Nat.le_mul_of_pos_right n (by decide : 0 < batch)).trans (Nat.le_add_left _ _)
    obtain ⟨more, sum⟩ := Nat.exists_eq_add_of_le much
    have filled := filled.later more
    rw [← sum] at filled
    exact resume_of_filledBy (filledBy_add.mp filled)

/-- Enough letters in the draws to come are found: each round uses up one group of them. -/
theorem Gathers.full_of_rounds {total limit : Nat} (gathers : Gathers draws start count filling)
    (enough : size ≤ (lettersFrom draws start total).length)
    (groupsLeft : 10 * (total - (count + 1)) + filling.remaining = limit) :
    size ≤ (Secret.rounds draws limit filling).letters.length := by
  induction limit generalizing count filling with
  | zero =>
    have spent : filling.remaining = 0 := by omega
    have used : filling.letters.length = (lettersFrom draws start (count + 1)).length := by
      rw [← gathers.used spent, List.length_reverse]
    have all := length_lettersFrom_mono draws start (by omega : total ≤ count + 1)
    rw [Secret.rounds]
    omega
  | succ limit ih =>
    unfold Secret.rounds
    split
    next short =>
      cases held : filling.remaining with
      | zero =>
        have fresh := gathers.draw held short
        have unread : count + 1 < total := by
          by_contra all
          have := length_lettersFrom_mono draws start (Nat.le_of_not_lt all)
          have := fresh.sparing
          omega
        rw [round_eq_of_spent held]
        have next := fresh.round_of_left rfl short
        refine ih next ?_
        rw [round_eq_of_left (rfl : (filling.draw draws).remaining = 9 + 1)]
        dsimp only
        omega
      | succ remaining =>
        refine ih (gathers.round_of_left held short) ?_
        rw [round_eq_of_left held]
        dsimp only
        omega
    next full => exact Nat.le_of_not_lt full

/-- A secret takes letters from the first draws that hold enough of them. -/
structure Drawn (draws : Nat → UInt64) (start count : Nat) (full : Filling) : Prop where
  position : full.position = start + count
  enough : size ≤ (lettersFrom draws start count).length
  sparing : ∀ fewer < count, (lettersFrom draws start fewer).length < size
  letters : full.letters = ((lettersFrom draws start count).take size).reverse

theorem drawn_of_fill (ended : fill draws (.start draws start) = some full) :
    ∃ count, Drawn draws start count full := by
  obtain ⟨n, same, filled⟩ := fill_eq_some_iff.mp ended
  obtain ⟨count, gathers⟩ := (gathers_start draws start).rounds n
  rw [same] at gathers
  have exact : full.letters.reverse.length = size := by
    rw [List.length_reverse]
    exact Nat.le_antisymm gathers.within filled
  have first : full.letters.reverse <+: lettersFrom draws start (count + 1) :=
    ⟨_, gathers.gathered⟩
  refine ⟨count + 1, gathers.position, exact ▸ first.length_le, ?_, ?_⟩
  · intro fewer below
    have := length_lettersFrom_mono draws start (Nat.le_of_lt_succ below)
    exact Nat.lt_of_le_of_lt this gathers.sparing
  · rw [← exact, ← List.prefix_iff_eq_take.mp first, List.reverse_reverse]

/-- Looking for letters ends exactly where the draws to come hold enough of them. -/
theorem isSome_fill_iff (draws : Nat → UInt64) (start : Nat) :
    (fill draws (.start draws start)).isSome = true ↔
      ∃ count, size ≤ (lettersFrom draws start count).length := by
  constructor
  · intro ended
    obtain ⟨full, ended⟩ := Option.isSome_iff_exists.mp ended
    obtain ⟨count, drawn⟩ := drawn_of_fill ended
    exact ⟨count, drawn.enough⟩
  · rintro ⟨count, enough⟩
    have full := (gathers_start draws start).full_of_rounds enough rfl
    rw [fill_eq_some_iff.mpr ⟨_, rfl, full⟩]
    rfl

theorem issue_of_fill {issuer : Issuer} {full : Filling}
    (ended : fill issuer.draws (.start issuer.draws issuer.position) = some full) :
    issuer.issue.1.secret = String.ofList full.letters ∧
      issuer.issue.2.position = full.position := by
  unfold Issuer.issue Secret.take
  rw [ended]
  exact ⟨rfl, rfl⟩

def secretsOf (issuer : Issuer) (calls : List Call) : List String :=
  (issuedBy issuer calls).map Token.secret

theorem spells_of_ends {issuer : Issuer} {calls : List Call} (ends : Ends issuer calls) :
    Spells issuer.draws issuer.position (secretsOf issuer calls) (run issuer calls).2.position := by
  induction calls generalizing issuer with
  | nil => exact .nil
  | cons call calls ih =>
    cases call with
    | validate candidate => exact ih ends
    | issue =>
      obtain ⟨ended, later⟩ := ends
      obtain ⟨full, ended⟩ := Option.isSome_iff_exists.mp ended
      obtain ⟨count, drawn⟩ := drawn_of_fill ended
      obtain ⟨secret, position⟩ := issue_of_fill ended
      have rest := ih later
      rw [position, drawn.position] at rest
      have first := Spells.cons drawn.enough drawn.sparing rest
      rw [← size, ← drawn.letters, ← secret] at first
      exact first

theorem Drawn.count_eq {position other : Nat} (drawn : Drawn draws position count full)
    (enough : size ≤ (lettersFrom draws position other).length)
    (sparing : ∀ fewer < other, (lettersFrom draws position fewer).length < size) :
    count = other := by
  apply Nat.le_antisymm
  · by_contra beyond
    exact absurd enough (Nat.not_le_of_lt (drawn.sparing other (Nat.lt_of_not_le beyond)))
  · by_contra beyond
    exact absurd drawn.enough (Nat.not_le_of_lt (sparing count (Nat.lt_of_not_le beyond)))

private theorem ends_of_spells {issuer : Issuer} {calls : List Call} {secrets : List String}
    {last : Nat}
    (spells : Spells issuer.draws issuer.position secrets last)
    (each : secrets.length = calls.count .issue) : Ends issuer calls := by
  induction calls generalizing issuer secrets with
  | nil => trivial
  | cons call calls ih =>
    cases call with
    | validate candidate => exact ih spells (by simpa using each)
    | issue =>
      cases spells with
      | nil => simp at each
      | @cons _ count _ secrets enough sparing rest =>
        have ended := (isSome_fill_iff issuer.draws issuer.position).mpr ⟨count, enough⟩
        refine ⟨ended, ?_⟩
        obtain ⟨full, ended⟩ := Option.isSome_iff_exists.mp ended
        obtain ⟨taken, drawn⟩ := drawn_of_fill ended
        obtain ⟨_, position⟩ := issue_of_fill ended
        refine ih (?_ : Spells _ _ secrets last) ?_
        · rw [position, drawn.position, drawn.count_eq enough sparing]
          exact rest
        · simpa using each

private theorem shape_of_spells {position last : Nat} {secrets : List String}
    (spells : Spells draws position secrets last) :
    ∀ secret ∈ secrets, secret.length = 100 ∧ ∀ c ∈ secret.toList, c.isAlpha = true := by
  induction spells with
  | nil => simp
  | @cons position count last secrets enough sparing rest ih =>
    refine List.forall_mem_cons.mpr ⟨⟨?_, ?_⟩, ih⟩
    · rw [String.length_ofList, List.length_reverse, List.length_take]
      omega
    · intro c member
      rw [String.toList_ofList, List.mem_reverse] at member
      obtain ⟨n, _, given⟩ := List.mem_flatMap.mp (List.mem_of_mem_take member)
      exact isAlpha_of_mem_accepted given

/-- For any stream of draws, looking for the letters of a secret ends exactly where the draws to come
hold enough of them. A run of calls ends exactly if the draws spell a secret for each of its issues,
each after the draws of the one before; then these are the secrets that it gives out, and they
have a hundred letters each. -/
theorem issued_secrets_spelled (draws : Nat → UInt64) (calls : List Call) :
    (∀ position, (fill draws (.start draws position)).isSome = true ↔
      ∃ count, 100 ≤ (lettersFrom draws position count).length) ∧
    (Ends (.new draws) calls ↔
      ∃ secrets last, secrets.length = calls.count .issue ∧ Spells draws 0 secrets last) ∧
    (Ends (.new draws) calls →
      Spells draws 0 (secretsOf (.new draws) calls) (run (.new draws) calls).2.position ∧
        ∀ secret ∈ secretsOf (.new draws) calls,
          secret.length = 100 ∧ ∀ c ∈ secret.toList, c.isAlpha = true) := by
  refine ⟨isSome_fill_iff draws, ⟨?_, ?_⟩, ?_⟩
  · intro ends
    refine ⟨secretsOf (.new draws) calls, _, ?_, spells_of_ends ends⟩
    rw [secretsOf, List.length_map, length_issuedBy]
  · rintro ⟨secrets, last, each, spells⟩
    exact ends_of_spells spells each
  · intro ends
    have spells := spells_of_ends ends
    exact ⟨spells, shape_of_spells spells⟩

end NoteBoard.Proofs.SecretLetters
