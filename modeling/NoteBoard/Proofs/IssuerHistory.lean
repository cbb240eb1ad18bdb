import Mathlib.Algebra.Group.Nat.Defs
import Mathlib.Data.List.Basic
import NoteBoard.Proofs.Utf8RoundTrip
import NoteBoard.Token.Issuer

/-! The issuer against its history. Over any run of issues and validations the ids number the
issued tokens from zero, and exactly the tokens issued before validate. -/

namespace NoteBoard.Proofs.IssuerHistory

private theorem gathered_eq_zero_iff (differences : List UInt8) (start : UInt8) :
    differences.foldl (· ||| ·) start = 0 ↔ start = 0 ∧ ∀ difference ∈ differences, difference = 0 := by
  induction differences generalizing start with
  | nil => simp
  | cons difference differences ih =>
    rw [List.foldl_cons, ih, UInt8.or_eq_zero_iff, List.forall_mem_cons, and_assoc]

private theorem no_difference_iff {stored candidate : List UInt8}
    (same : stored.length = candidate.length) :
    (∀ difference ∈ List.zipWith (· ^^^ ·) stored candidate, difference = 0) ↔ stored = candidate := by
  induction stored generalizing candidate with
  | nil =>
    cases candidate with
    | nil => simp
    | cons => simp at same
  | cons first stored ih =>
    cases candidate with
    | nil => simp at same
    | cons other candidate =>
      rw [List.zipWith_cons_cons, List.forall_mem_cons, UInt8.xor_eq_zero_iff,
        ih (by simpa using same), List.cons.injEq]

/-- Gathering all differences before looking at them decides equality, lengths included. -/
private theorem sameBytes_iff (stored candidate : List UInt8) :
    Issuer.sameBytes stored candidate = true ↔ stored = candidate := by
  unfold Issuer.sameBytes
  split
  next different =>
    constructor
    · intro impossible
      cases impossible
    · intro equal
      exact absurd (congrArg List.length equal) different
  next same =>
    rw [beq_iff_eq, gathered_eq_zero_iff, no_difference_iff (not_not.mp same)]
    simp

theorem validate_iff (issuer : Issuer) (candidate : Token) :
    issuer.validate candidate = true ↔ issuer.secrets[candidate.id]? = some candidate.secret := by
  unfold Issuer.validate
  split
  next stored found =>
    rw [sameBytes_iff, found, Option.some.injEq, Utf8RoundTrip.encode_injective.eq_iff,
      String.toList_inj]
  next missing => simp [missing]

theorem issue_secrets (issuer : Issuer) :
    issuer.issue.2.secrets = issuer.secrets.insert issuer.nextId issuer.issue.1.secret := rfl

theorem issue_record (issuer : Issuer) (id : Nat) :
    issuer.issue.2.secrets[id]? =
      if id = issuer.nextId then some issuer.issue.1.secret else issuer.secrets[id]? := by
  rw [issue_secrets, Std.TreeMap.getElem?_insert]
  by_cases newest : id = issuer.nextId
  · simp [newest]
  · have other : ¬ compare issuer.nextId id = .eq := by
      rw [Nat.compare_eq_eq]
      omega
    simp only [newest, other, if_false]

inductive Call where
  | issue
  | validate (candidate : Token)
  deriving DecidableEq

inductive Answer where
  | issued (token : Token)
  | verdict (valid : Bool)

def respond (issuer : Issuer) : Call → Answer × Issuer
  | .issue => (.issued issuer.issue.1, issuer.issue.2)
  | .validate candidate => (.verdict (issuer.validate candidate), issuer)

def run (issuer : Issuer) : List Call → List Answer × Issuer
  | [] => ([], issuer)
  | call :: calls =>
    let current := respond issuer call
    let later := run current.2 calls
    (current.1 :: later.1, later.2)

def Answer.token? : Answer → Option Token
  | .issued token => some token
  | .verdict _ => none

def issuedBy (issuer : Issuer) (calls : List Call) : List Token :=
  (run issuer calls).1.filterMap Answer.token?

theorem issuedBy_cons (issuer : Issuer) (call : Call) (calls : List Call) :
    issuedBy issuer (call :: calls) =
      (respond issuer call).1.token?.toList ++ issuedBy (respond issuer call).2 calls := by
  cases call <;> rfl

/-- The counter and the record agree with the tokens issued so far. -/
structure Records (issuer : Issuer) (history : List Token) : Prop where
  counter : issuer.nextId = history.length
  size : issuer.size = history.length
  numbered : ∀ (n : Nat) token, history[n]? = some token → token.id = n
  recorded : ∀ id : Nat, issuer.secrets[id]? = history[id]?.map Token.secret

theorem records_new (draws : Nat → UInt64) : Records (.new draws) [] :=
  ⟨rfl, rfl, by simp, fun _ => Std.TreeMap.getElem?_emptyc⟩

theorem Records.issue {issuer : Issuer} {history : List Token} (records : Records issuer history) :
    Records issuer.issue.2 (history ++ [issuer.issue.1]) := by
  have number : issuer.issue.1.id = history.length := records.counter
  have fresh : issuer.nextId ∉ issuer.secrets := by
    rw [← Std.TreeMap.isSome_getElem?_iff_mem, records.recorded, records.counter]
    simp
  constructor
  · rw [List.length_append, List.length_singleton, ← records.counter]
    rfl
  · rw [List.length_append, List.length_singleton, ← records.size]
    unfold Issuer.size
    rw [issue_secrets, Std.TreeMap.size_insert, if_neg (by simpa using fresh)]
  · intro n token found
    rw [List.getElem?_append] at found
    split at found
    · exact records.numbered n token found
    · rw [List.getElem?_singleton] at found
      split at found
      · cases found
        omega
      · cases found
  · intro id
    rw [issue_record, records.recorded, records.counter, List.getElem?_append]
    by_cases newest : id = history.length
    · simp [newest]
    · by_cases earlier : id < history.length
      · simp [newest, earlier]
      · rw [if_neg newest, if_neg earlier, List.getElem?_eq_none (by omega),
          List.getElem?_eq_none (by simp; omega)]

theorem Records.respond {issuer : Issuer} {history : List Token} (records : Records issuer history)
    (call : Call) :
    Records (respond issuer call).2 (history ++ (respond issuer call).1.token?.toList) := by
  cases call with
  | issue => exact records.issue
  | validate candidate => simpa [IssuerHistory.respond, Answer.token?] using records

theorem Records.run {issuer : Issuer} {history : List Token} (records : Records issuer history)
    (calls : List Call) :
    Records (run issuer calls).2 (history ++ issuedBy issuer calls) := by
  induction calls generalizing issuer history with
  | nil => simpa [IssuerHistory.run, issuedBy] using records
  | cons call calls ih =>
    rw [issuedBy_cons, ← List.append_assoc]
    exact ih (records.respond call)

theorem Records.validate_iff {issuer : Issuer} {history : List Token}
    (records : Records issuer history) (candidate : Token) :
    issuer.validate candidate = true ↔ candidate ∈ history := by
  rw [IssuerHistory.validate_iff, records.recorded, Option.map_eq_some_iff]
  constructor
  · rintro ⟨token, found, secret⟩
    have number := records.numbered _ _ found
    have same : token = candidate := by
      cases token
      cases candidate
      simp_all
    exact same ▸ List.mem_of_getElem? found
  · intro member
    obtain ⟨n, found⟩ := List.mem_iff_getElem?.mp member
    refine ⟨candidate, ?_, rfl⟩
    rw [records.numbered n candidate found]
    exact found

private theorem issuedBy_append (issuer : Issuer) (earlier later : List Call) :
    issuedBy issuer (earlier ++ later) =
      issuedBy issuer earlier ++ issuedBy (run issuer earlier).2 later := by
  induction earlier generalizing issuer with
  | nil => rfl
  | cons call earlier ih =>
    rw [List.cons_append, issuedBy_cons, issuedBy_cons, ih, List.append_assoc]
    rfl

theorem length_issuedBy (issuer : Issuer) (calls : List Call) :
    (issuedBy issuer calls).length = calls.count .issue := by
  induction calls generalizing issuer with
  | nil => rfl
  | cons call calls ih =>
    rw [issuedBy_cons, List.length_append, ih, List.count_cons]
    cases call <;> simp [respond, Answer.token?, Nat.add_comm]

/-- After any run of calls, ids count the issued tokens up from zero and stay within 64 bits for
as long as the counter does, the size is the number of issues, and a candidate validates exactly
when it is, id and secret, one of the tokens issued. So an issued token validates after whatever
comes later, and an id goes with the secret of another token only if the two secrets are equal. -/
theorem run_validates_exactly_issued (draws : Nat → UInt64) (calls : List Call) :
    let issuer := (run (.new draws) calls).2
    let issued := issuedBy (.new draws) calls
    issued.length = calls.count .issue ∧
    issuer.size = calls.count .issue ∧
    (∀ (n : Nat) token, issued[n]? = some token → token.id = n) ∧
    (calls.count .issue ≤ 2 ^ 64 → ∀ token ∈ issued, token.id ≤ Token.largestId) ∧
    (∀ candidate, issuer.validate candidate = true ↔ candidate ∈ issued) ∧
    (∀ later, ∀ token ∈ issued, (run (.new draws) (calls ++ later)).2.validate token = true) ∧
    (∀ first ∈ issued, ∀ second ∈ issued,
      issuer.validate ⟨first.id, second.secret⟩ = true ↔ first.secret = second.secret) := by
  intro issuer issued
  have records : Records issuer issued := (records_new draws).run calls
  have count : issued.length = calls.count .issue := length_issuedBy _ _
  refine ⟨count, records.size.trans count, records.numbered, ?_, records.validate_iff, ?_, ?_⟩
  · intro few token member
    obtain ⟨n, found⟩ := List.mem_iff_getElem?.mp member
    have number := records.numbered n token found
    have inside := (List.getElem?_eq_some_iff.mp found).1
    unfold Token.largestId
    omega
  · intro later token member
    have whole := (records_new draws).run (calls ++ later)
    rw [List.nil_append, issuedBy_append] at whole
    exact (whole.validate_iff token).mpr (List.mem_append_left _ member)
  · intro first firstIssued second _
    have own := (validate_iff issuer first).mp ((records.validate_iff first).mpr firstIssued)
    rw [validate_iff, own, Option.some.injEq]

end NoteBoard.Proofs.IssuerHistory
