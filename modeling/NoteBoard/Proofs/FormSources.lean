import NoteBoard.Proofs.DecimalText
import NoteBoard.Proofs.FormRoundTrip
import NoteBoard.Proofs.Utf8Soundness

/-! Where the fields of a form come from. A body and a query joined by a separator make the same form
as the two apart, so it does not matter in which of them a field stands, only which fields come
before it. -/

namespace NoteBoard.Proofs.FormSources
open Form FormRoundTrip

/-- The value of the first of the fields that have the name. -/
def First (pairs : List (String × String)) (name value : String) : Prop :=
  ∃ before after, pairs = before ++ (name, value) :: after ∧ ∀ pair ∈ before, name ≠ pair.1

theorem get?_eq_some_iff (form : Form) (name value : String) :
    form.get? name = some value ↔ First form.pairs name value := by
  unfold Form.get? First
  rw [List.lookup_eq_some_iff]
  simp only [bne_iff_ne]

/-- No field stretches from one source into the other. -/
private theorem decodePairs_join (body query : List UInt8) :
    decodePairs (body ++ ampersand :: query) = decodePairs body ++ decodePairs query := by
  unfold decodePairs
  rw [split_join, List.filter_append, List.map_append]

private theorem parse_eq_joined (query : Option String) (body : List UInt8) :
    Form.parse query body =
      Form.parse none (body ++ ampersand :: Utf8.encode (query.getD "").toList) := by
  unfold Form.parse
  rw [decodePairs_join, decodePairs_no_query, List.append_nil]

/-! A written form is plain ASCII, so it can stand in a query as well as in a body. -/

def Ascii (bytes : List UInt8) : Prop := ∀ b ∈ bytes, b.toNat < 0x80

def queryText (pairs : List (String × String)) : String :=
  String.ofList ((encodePairs pairs).map fun b => Char.ofNat b.toNat)

theorem ascii_of_isKept {b : UInt8} (kept : isKept b = true) : b.toNat < 0x80 := by
  have each : ∀ n < 256, isKept (Utf8.byte n) = true → n < 0x80 := by decide +kernel
  apply each b.toNat b.toNat_lt
  rwa [← Utf8Soundness.eq_byte rfl]

private theorem ascii_encodeByte (value : UInt8) : Ascii (Percent.encodeByte value) := by
  have bound := value.toNat_lt
  intro b member
  simp only [Percent.encodeByte, List.mem_cons, List.not_mem_nil, or_false] at member
  rcases member with rfl | rfl | rfl
  · decide
  · exact ascii_of_isKept (isKept_hexDigit _ (by omega))
  · exact ascii_of_isKept (isKept_hexDigit _ (by omega))

theorem ascii_encode (text : String) : Ascii (encode text) := by
  intro b member
  obtain ⟨value, _, inside⟩ := List.mem_flatMap.mp member
  split at inside
  next =>
    obtain rfl := List.mem_singleton.mp inside
    decide
  next =>
    split at inside
    next kept =>
      obtain rfl := List.mem_singleton.mp inside
      exact ascii_of_isKept kept
    next => exact ascii_encodeByte value b inside

theorem ascii_encodePair (pair : String × String) : Ascii (encodePair pair) := by
  intro b member
  rw [encodePair, List.mem_append, List.mem_cons] at member
  rcases member with name | rfl | value
  · exact ascii_encode pair.1 b name
  · decide
  · exact ascii_encode pair.2 b value

private theorem ascii_encodePairs (pairs : List (String × String)) : Ascii (encodePairs pairs) := by
  unfold encodePairs
  induction pairs with
  | nil => simp [Ascii]
  | cons first pairs ih =>
    cases pairs with
    | nil =>
      rw [List.map_singleton, List.intercalate_singleton]
      exact ascii_encodePair first
    | cons second pairs =>
      rw [List.map_cons, List.map_cons, List.intercalate_cons_cons]
      intro b member
      simp only [List.mem_append, List.mem_singleton] at member
      rcases member with (here | rfl) | later
      · exact ascii_encodePair first b here
      · decide
      · exact ih b later

private theorem encode_of_ascii {bytes : List UInt8} (ascii : Ascii bytes) :
    Utf8.encode (bytes.map fun b => Char.ofNat b.toNat) = bytes := by
  induction bytes with
  | nil => rfl
  | cons first bytes ih =>
    obtain ⟨here, later⟩ := List.forall_mem_cons.mp ascii
    rw [List.map_cons, Utf8.encode, List.flatMap_cons, Utf8Soundness.encodeChar_one here]
    exact congrArg (first :: ·) (ih later)

private theorem encode_queryText (pairs : List (String × String)) :
    Utf8.encode (queryText pairs).toList = encodePairs pairs := by
  rw [queryText, String.toList_ofList, encode_of_ascii (ascii_encodePairs pairs)]

private theorem parse_of_split {front back : List (String × String)} {query : Option String}
    (rest : query.getD "" = queryText back) :
    Form.parse query (encodePairs front) = ⟨front ++ back⟩ := by
  unfold Form.parse
  rw [rest, encode_queryText, decodePairs_encodePairs, decodePairs_encodePairs]

theorem First.append {pairs : List (String × String)} {name value : String}
    (first : First pairs name value) (more : List (String × String)) :
    First (pairs ++ more) name value := by
  obtain ⟨before, after, rfl, others⟩ := first
  exact ⟨before, after ++ more, by simp, others⟩

theorem first_of_mem {pairs : List (String × String)} (distinct : (pairs.map Prod.fst).Nodup)
    {name value : String} (member : (name, value) ∈ pairs) : First pairs name value := by
  obtain ⟨before, after, rfl⟩ := List.append_of_mem member
  refine ⟨before, after, rfl, ?_⟩
  rintro pair earlier rfl
  rw [List.map_append, List.nodup_append] at distinct
  exact distinct.2.2 pair.1 (List.mem_map_of_mem earlier) pair.1 (by simp) rfl

def tokenFields (token : Token) : List (String × String) :=
  [(Token.idField, toString token.id), (Token.secretField, token.secret)]

theorem token?_of_first {form : Form} {token : Token} (within : token.id ≤ Token.largestId)
    (carried : ∀ field ∈ tokenFields token, First form.pairs field.1 field.2) :
    form.token? = some token := by
  obtain ⟨idFirst, carried⟩ := List.forall_mem_cons.mp carried
  obtain ⟨secretFirst, _⟩ := List.forall_mem_cons.mp carried
  have id : form.get? Token.idField = some (toString token.id) :=
    (get?_eq_some_iff form _ _).mpr idFirst
  have secret : form.get? Token.secretField = some token.secret :=
    (get?_eq_some_iff form _ _).mpr secretFirst
  simp only [Form.token?, id, secret, DecimalText.unsigned?_toString within, Option.bind_eq_bind,
    Option.bind_some]
  rfl

private theorem tokenFields_distinct (token : Token) :
    ((tokenFields token).map Prod.fst).Nodup := by
  change [Token.idField, Token.secretField].Nodup
  decide

/-- A body and a query together are one list of fields, the body's before the query's, and the first
field of a name counts. Fields that are written arrive as they were, wherever the list is cut into
a body and a query, and so does a token. -/
theorem fields_of_either_source :
    (∀ query body, Form.parse query body =
      Form.parse none (body ++ ampersand :: Utf8.encode (query.getD "").toList)) ∧
    (∀ query body name value, (Form.parse query body).get? name = some value ↔
      First (decodePairs body ++ decodePairs (Utf8.encode (query.getD "").toList)) name value) ∧
    ∀ front back query, query.getD "" = queryText back →
      (∀ name value, (Form.parse query (encodePairs front)).get? name = some value ↔
        First (front ++ back) name value) ∧
      ∀ (id : UInt64) (secret : String),
        (front ++ back).Perm (tokenFields ⟨id.toNat, secret⟩) →
          (Form.parse query (encodePairs front)).token? = some ⟨id.toNat, secret⟩ := by
  refine ⟨parse_eq_joined, ?_, ?_⟩
  · intro query body name value
    exact get?_eq_some_iff (Form.parse query body) name value
  · intro front back query rest
    rw [parse_of_split rest]
    refine ⟨get?_eq_some_iff ⟨front ++ back⟩, ?_⟩
    intro id secret arranged
    have within : id.toNat ≤ Token.largestId := Nat.le_sub_one_of_lt id.toNat_lt
    have distinct : ((front ++ back).map Prod.fst).Nodup :=
      (arranged.map Prod.fst).nodup_iff.mpr (tokenFields_distinct _)
    apply token?_of_first within
    intro field member
    exact first_of_mem distinct (arranged.mem_iff.mpr member)

/-- The id in the body and the secret, which looks like more fields, in the query. -/
theorem token_from_both_sources :
    let largest : UInt64 := 18446744073709551615
    let token : Token := ⟨largest.toNat, "a&share_note_token_id=7%26+é"⟩
    let inBody := [(Token.idField, toString token.id)]
    let inQuery := [(Token.secretField, token.secret)]
    let query := some (queryText inQuery)
    query.getD "" = queryText inQuery ∧ (inBody ++ inQuery).Perm (tokenFields token) ∧
    (Form.parse query (encodePairs inBody)).token? = some token := by
  intro largest token inBody inQuery query
  obtain ⟨_, _, split⟩ := fields_of_either_source
  obtain ⟨_, carried⟩ := split inBody inQuery query rfl
  have arranged : (inBody ++ inQuery).Perm (tokenFields token) := List.Perm.refl _
  exact ⟨rfl, arranged, carried largest token.secret arranged⟩

end NoteBoard.Proofs.FormSources
