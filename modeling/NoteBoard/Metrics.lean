/-! Counts of what the board did. A count of zero is one that was never touched. -/

namespace NoteBoard

/-- Counts by key, in the order in which the keys came up. -/
structure Tally (κ : Type) where
  entries : List (κ × Nat) := []

namespace Tally

variable {κ : Type} [DecidableEq κ]

def bumpEntries (key : κ) : List (κ × Nat) → List (κ × Nat)
  | [] => [(key, 1)]
  | entry :: entries =>
    if entry.1 = key then (key, entry.2 + 1) :: entries else entry :: bumpEntries key entries

def bump (tally : Tally κ) (key : κ) : Tally κ := ⟨bumpEntries key tally.entries⟩

def count (tally : Tally κ) (key : κ) : Nat := (tally.entries.lookup key).getD 0

end Tally

structure Metrics where
  requests : Tally (String × Nat) := {}
  durations : Tally String := {}
  throttled : Nat := 0
  tokenRejections : Nat := 0
  tokensIssued : Nat := 0
  tokensOutstanding : Nat := 0

namespace Metrics

def recordRequest (metrics : Metrics) (route : String) (status : Nat) : Metrics :=
  { metrics with
    requests := metrics.requests.bump (route, status)
    durations := metrics.durations.bump route }

def recordThrottled (metrics : Metrics) : Metrics :=
  { metrics with throttled := metrics.throttled + 1 }

def recordTokenRejected (metrics : Metrics) : Metrics :=
  { metrics with tokenRejections := metrics.tokenRejections + 1 }

def recordTokenIssued (metrics : Metrics) (outstanding : Nat) : Metrics :=
  { metrics with tokensIssued := metrics.tokensIssued + 1, tokensOutstanding := outstanding }

def samples (metrics : Metrics) : List (String × Nat) :=
  (metrics.requests.entries.map fun ((route, status), count) =>
      ("notes_requests_total\x7broute=" ++ route ++ ",status=" ++ toString status ++ "\x7d", count))
    ++ (metrics.durations.entries.map fun (route, count) =>
      ("notes_request_duration_seconds\x7broute=" ++ route ++ "\x7d", count))
    ++ ([("notes_throttled_total", metrics.throttled),
      ("notes_token_rejections_total", metrics.tokenRejections),
      ("notes_tokens_issued_total", metrics.tokensIssued),
      ("notes_tokens_outstanding", metrics.tokensOutstanding)].filter (·.2 ≠ 0))

end Metrics

end NoteBoard
