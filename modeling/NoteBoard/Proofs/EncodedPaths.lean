import NoteBoard.Proofs.PathGrammar
import NoteBoard.Proofs.PercentRoundTrip
import NoteBoard.Proofs.RequestOutcome
import NoteBoard.Proofs.Utf8Soundness

/-! Paths in percent form. A path may be sent with any of its bytes in percent form, and it is the
same path then. No path that leads to a route has a percent sign in it, so nothing is decoded twice
and a path that decodes to no text, which is matched as it was sent, leads nowhere. -/

namespace NoteBoard.Proofs.EncodedPaths
open Percent PathGrammar PercentRoundTrip RequestOutcome RouteGrammar

/-- A digit that counts n, as a capital or as a small letter. -/
def Counts (n : Nat) (digit : UInt8) : Prop :=
  ∃ row ∈ ["0123456789ABCDEF", "0123456789abcdef"],
    row.toList[n]?.map (fun c => Utf8.byte c.toNat) = some digit

instance (n : Nat) (digit : UInt8) : Decidable (Counts n digit) :=
  inferInstanceAs (Decidable (∃ row ∈ ["0123456789ABCDEF", "0123456789abcdef"],
    row.toList[n]?.map (fun c => Utf8.byte c.toNat) = some digit))

/-- A way of writing bytes: each in percent form or as it stands, the percent sign in percent form
only. -/
inductive Encodes : List UInt8 → List UInt8 → Prop where
  | nil : Encodes [] []
  | plain {value : UInt8} {bytes written : List UInt8} (other : value ≠ sign)
      (rest : Encodes bytes written) : Encodes (value :: bytes) (value :: written)
  | coded {value high low : UInt8} {bytes written : List UInt8}
      (left : Counts (value.toNat / 16) high) (right : Counts (value.toNat % 16) low)
      (rest : Encodes bytes written) : Encodes (value :: bytes) (sign :: high :: low :: written)

theorem hexValue?_of_counts {n : Nat} {digit : UInt8} (small : n < 16) (counts : Counts n digit) :
    hexValue? digit = some n := by
  have rows : ∀ row ∈ ["0123456789ABCDEF", "0123456789abcdef"], ∀ n < 16,
      (row.toList[n]?.map fun c => Utf8.byte c.toNat).bind hexValue? = some n := by
    decide +kernel
  obtain ⟨row, member, found⟩ := counts
  have read := rows row member n small
  rwa [found] at read

private theorem pair?_of_counts {value high low : UInt8} (left : Counts (value.toNat / 16) high)
    (right : Counts (value.toNat % 16) low) : pair? high low = some value := by
  have bound := value.toNat_lt
  have whole : 16 * (value.toNat / 16) + value.toNat % 16 = value.toNat := by omega
  unfold pair?
  rw [hexValue?_of_counts (by omega) left, hexValue?_of_counts (by omega) right]
  simp only [Option.bind_eq_bind, Option.bind_some, whole]
  exact congrArg some UInt8.ofNat_toNat

private theorem decode_of_encodes {bytes written : List UInt8} (encodes : Encodes bytes written) :
    decode written = bytes := by
  induction encodes with
  | nil => rfl
  | plain other _ ih => rw [decode_cons_of_ne other, ih]
  | coded left right _ ih =>
    rw [decode, if_pos rfl, pair?_of_counts left right]
    exact congrArg _ ih

private theorem decodePath_of_encodes {path plain : String}
    (encodes : Encodes (Utf8.encode plain.toList) (Utf8.encode path.toList)) :
    Request.decodePath path = plain := by
  unfold Request.decodePath
  rw [decode_of_encodes encodes, Utf8RoundTrip.decode?_encode]
  exact String.ofList_toList

/-- The bytes of a path, its percent forms undone, are those of no text. -/
def Undecodable (path : String) : Prop :=
  ∀ text, Utf8.encode text ≠ decode (Utf8.encode path.toList)

private theorem decodePath_of_undecodable {path : String} (undecodable : Undecodable path) :
    Request.decodePath path = path := by
  have unread : Utf8.decode? (decode (Utf8.encode path.toList)) = none := by
    apply Option.eq_none_iff_forall_ne_some.mpr
    intro text read
    exact undecodable text (Utf8Soundness.decode?_eq_some_iff.mp read)
  unfold Request.decodePath
  rw [unread]

private theorem sign_of_undecodable {path : String} (undecodable : Undecodable path) :
    '%' ∈ path.toList := by
  by_contra absent
  have plain : sign ∉ Utf8.encode path.toList := sign_not_mem_encode absent
  apply undecodable path.toList
  rw [decode_of_plain plain]

theorem sign_not_mem_of_leads {path : String} {answer : Except RouteError Route}
    (leads : Leads path answer) : '%' ∉ path.toList := by
  have noteLead : ∀ entry ∈ noteLeads, '%' ∉ entry.1.toList := by decide
  have filterLead : ∀ entry ∈ filterLeads, '%' ∉ entry.1.toList := by decide
  have numeric {digits : List Char} (written : Digits digits) : '%' ∉ digits := by
    intro member
    exact absurd (written.2 '%' member) (by decide)
  cases leads with
  | index | addNote | newNote => decide
  | note named written within =>
    rw [String.toList_append, String.toList_ofList, List.mem_append, not_or]
    exact ⟨noteLead _ named, numeric written⟩
  | tooLarge named written beyond =>
    rw [String.toList_append, String.toList_ofList, List.mem_append, not_or]
    exact ⟨noteLead _ named, numeric written⟩
  | filter named nonempty allowed =>
    rw [String.toList_append, List.mem_append, not_or]
    refine ⟨filterLead _ named, ?_⟩
    intro member
    exact absurd (allowed '%' member) (by decide)

/-- Nothing looks at a path but through its percent forms. -/
private theorem serve_congr {path other : String}
    (same : Request.decodePath path = Request.decodePath other) (server : Server)
    (arrival : Arrival) (board : Board) (request : Request) :
    server.serve arrival board { request with path } =
      server.serve arrival board { request with path := other } := by
  have declared : server.declaresTooMuch { request with path } =
      server.declaresTooMuch { request with path := other } := rfl
  have answered : server.answer arrival board { request with path } =
      server.answer arrival board { request with path := other } := by
    unfold Server.answer
    rw [same]
    rfl
  unfold Server.serve
  rw [declared, answered]
  rfl

private theorem serve_of_lost {server : Server} {request : Request} {error : RouteError}
    (lost : server.table.find (Request.decodePath request.path) = .error error)
    (arrival : Arrival) (board : Board) :
    (server.serve arrival board request).1.response ∈
        [Server.lengthExceeded, Refusal.tooManyRequests.response, (Refusal.ofRouteError error).response] ∧
      Untouched board (server.serve arrival board request).2 := by
  unfold Server.serve Server.answer
  rw [enter_eq, lost]
  cases server.declaresTooMuch request with
  | true => exact ⟨by simp, Untouched.refl board⟩
  | false =>
    cases board.throttle.accepts arrival.clock with
    | false => exact ⟨by simp [Server.finish], rfl, rfl, rfl⟩
    | true => exact ⟨by simp [Server.finish], rfl, rfl, rfl⟩

/-- However a path is encoded, it is decoded to the path that was encoded, once, and a request that
sends it so is served like one that sends a path of the grammar as it stands. A path that decodes
to no text stays as it was sent, and no route is carried out for it. -/
theorem encoded_paths_admitted (path : String) :
    (∀ plain : String, Encodes (Utf8.encode plain.toList) (Utf8.encode path.toList) →
      Request.decodePath path = plain ∧
      ∀ answer, Leads plain answer →
        RouteTable.board.find (Request.decodePath path) = answer ∧
        ∀ (server : Server) (arrival : Arrival) (board : Board) (request : Request),
          server.serve arrival board { request with path } =
            server.serve arrival board { request with path := plain }) ∧
    (Undecodable path →
      Request.decodePath path = path ∧
      RouteTable.board.find (Request.decodePath path) = .error (.notFound path) ∧
      ∀ (config : Config) (exporter : Option Exporter) (arrival : Arrival) (board : Board)
        (request : Request), request.path = path →
        let served := (Server.ofConfig config exporter).serve arrival board request
        served.1.response ∈ [Server.lengthExceeded, Refusal.tooManyRequests.response,
          (Refusal.notFound path).response] ∧
        Untouched board served.2) := by
  constructor
  · intro plain encodes
    have decoded : Request.decodePath path = plain := decodePath_of_encodes encodes
    refine ⟨decoded, ?_⟩
    intro answer leads
    have stays : Request.decodePath plain = plain :=
      decodePath_of_plain (sign_not_mem_of_leads leads)
    refine ⟨?_, ?_⟩
    · rw [decoded]
      exact find_of_leads leads
    · apply serve_congr
      rw [decoded, stays]
  · intro undecodable
    have unchanged : Request.decodePath path = path := decodePath_of_undecodable undecodable
    have lost : RouteTable.board.find (Request.decodePath path) = .error (.notFound path) := by
      rw [unchanged]
      apply find_of_not_leads
      intro answer leads
      exact sign_not_mem_of_leads leads (sign_of_undecodable undecodable)
    refine ⟨unchanged, lost, ?_⟩
    rintro config exporter arrival board request rfl
    let server := Server.ofConfig config exporter
    have outside : server.table.find (Request.decodePath request.path) =
        .error (.notFound request.path) := lost
    exact serve_of_lost outside arrival board

/-- Digits of both cases, a letter that need not have been encoded, and the first of the two bytes of
a character with something else after it. -/
theorem encoded_search_admitted :
    Encodes (Utf8.encode "/TextFilter/a z".toList) (Utf8.encode "/TextFilter/%61%20%7a".toList) ∧
    Leads "/TextFilter/a z" (.ok (.filter .text "a z")) ∧
    RouteTable.board.find (Request.decodePath "/TextFilter/%61%20%7a") =
      .ok (.filter .text "a z") ∧
    Undecodable "/Note/%c3%28" ∧
    RouteTable.board.find (Request.decodePath "/Note/%c3%28") =
      .error (.notFound "/Note/%c3%28") := by
  have encodes : Encodes (Utf8.encode "/TextFilter/a z".toList)
      (Utf8.encode "/TextFilter/%61%20%7a".toList) := by
    have bytes : Utf8.encode "/TextFilter/a z".toList =
        [47, 84, 101, 120, 116, 70, 105, 108, 116, 101, 114, 47, 97, 32, 122] := by decide +kernel
    have written : Utf8.encode "/TextFilter/%61%20%7a".toList =
        [47, 84, 101, 120, 116, 70, 105, 108, 116, 101, 114, 47,
          37, 54, 49, 37, 50, 48, 37, 55, 97] := by decide +kernel
    rw [bytes, written]
    iterate 12 apply Encodes.plain (by decide)
    iterate 3 apply Encodes.coded (by decide) (by decide)
    exact .nil
  have leads : Leads "/TextFilter/a z" (.ok (.filter .text "a z")) := by
    have spelled : "/TextFilter/" ++ "a z" = "/TextFilter/a z" := by decide +kernel
    have allowed : "a z".toList.all isFilterChar = true := by decide +kernel
    rw [← spelled]
    apply Leads.filter (mem_filterLeads .text)
    · decide +kernel
    · intro c member
      exact (isFilterChar_iff c).mp (List.all_eq_true.mp allowed c member)
  have undecodable : Undecodable "/Note/%c3%28" := by
    intro text same
    have read := Utf8Soundness.decode?_eq_some_iff.mpr same
    have unread : Utf8.decode? (decode (Utf8.encode "/Note/%c3%28".toList)) = none := by
      decide +kernel
    rw [unread] at read
    cases read
  obtain ⟨encoded, _⟩ := encoded_paths_admitted "/TextFilter/%61%20%7a"
  obtain ⟨_, undecoded⟩ := encoded_paths_admitted "/Note/%c3%28"
  obtain ⟨_, admitted⟩ := encoded _ encodes
  obtain ⟨_, lost, _⟩ := undecoded undecodable
  exact ⟨encodes, leads, (admitted _ leads).1, undecodable, lost⟩

end NoteBoard.Proofs.EncodedPaths
