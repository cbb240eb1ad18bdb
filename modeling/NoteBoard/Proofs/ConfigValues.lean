import Mathlib.Data.List.Nodup
import NoteBoard.Config.Load

/-! Values for some fields of a configuration, and how they are read from the tables of a document.
All other fields have their defaults. -/

namespace NoteBoard.Proofs.ConfigValues
open Config Toml

abbrev Size := Fin 0x8000000000000000

structure Given where
  bindAddress : Option String := none
  minInterval : Option Size := none
  databasePath : Option String := none
  pasteEnabled : Option Bool := none
  pasteEndpoint : Option String := none
  pasteTimeout : Option Size := none
  requestTimeout : Option Size := none
  enableHeaders : Option Bool := none
  maxBodySize : Option Size := none
  logLevel : Option String := none
  metricsEnabled : Option Bool := none
  metricsAddress : Option String := none

def sizeValue (n : Size) : Value := .integer (n.val : Nat)

namespace Given

def fields (given : Given) : List ((String × String) × Option Value) := [
  (("listener", "bind_address"), given.bindAddress.map .text),
  (("throttle", "min_interval_ns"), given.minInterval.map sizeValue),
  (("store", "database_path"), given.databasePath.map .text),
  (("paste", "enabled"), given.pasteEnabled.map .boolean),
  (("paste", "endpoint"), given.pasteEndpoint.map .text),
  (("paste", "timeout_secs"), given.pasteTimeout.map sizeValue),
  (("timeouts", "request_secs"), given.requestTimeout.map sizeValue),
  (("security", "enable_headers"), given.enableHeaders.map .boolean),
  (("security", "max_body_size"), given.maxBodySize.map sizeValue),
  (("observability", "log_level"), given.logLevel.map .text),
  (("observability", "metrics_enabled"), given.metricsEnabled.map .boolean),
  (("observability", "metrics_address"), given.metricsAddress.map .text)]

def settings (given : Given) : List ((String × String) × Value) :=
  given.fields.filterMap fun (key, value) => value.map (key, ·)

def config (given : Given) : Config where
  listener := { bindAddress := given.bindAddress.getD "0.0.0.0:8080" }
  throttle := { minInterval := (given.minInterval.map Fin.val).getD 1000 }
  store := { path := given.databasePath.getD "sndb.db" }
  paste :=
    { enabled := given.pasteEnabled.getD true
      endpoint := given.pasteEndpoint.getD "http://dpaste.com/api/v2/"
      timeout := (given.pasteTimeout.map Fin.val).getD 10 }
  timeouts := { request := (given.requestTimeout.map Fin.val).getD 30 }
  security :=
    { headers := given.enableHeaders.getD true
      maxBodySize := (given.maxBodySize.map Fin.val).getD (64 * 1024) }
  observability :=
    { logLevel := given.logLevel.getD "info"
      metricsEnabled := given.metricsEnabled.getD false
      metricsAddress := given.metricsAddress.getD "127.0.0.1:9090" }

end Given

def schema : List (String × List String) := [
  ("listener", listenerFields.map Field.name),
  ("throttle", throttleFields.map Field.name),
  ("store", storeFields.map Field.name),
  ("paste", pasteFields.map Field.name),
  ("timeouts", timeoutFields.map Field.name),
  ("security", securityFields.map Field.name),
  ("observability", observabilityFields.map Field.name)]

def known (name : String) : List String := (schema.lookup name).getD []

theorem names_fields (given : Given) :
    given.fields.map Prod.fst =
      schema.flatMap fun part => part.2.map fun key => (part.1, key) := rfl

theorem known_of_mem {given : Given} {field : (String × String) × Option Value}
    (member : field ∈ given.fields) : field.1.2 ∈ known field.1.1 := by
  have each : ∀ field ∈ schema.flatMap fun part => part.2.map fun key => (part.1, key),
      field.2 ∈ known field.1 := by decide
  rw [← names_fields given] at each
  exact each field.1 (List.mem_map_of_mem member)

theorem nodup_fields (given : Given) : (given.fields.map Prod.fst).Nodup := by
  rw [names_fields]
  decide

theorem mem_fields {given : Given} {setting : (String × String) × Value}
    (member : setting ∈ given.settings) : (setting.1, some setting.2) ∈ given.fields := by
  obtain ⟨⟨field, value⟩, inside, same⟩ := List.mem_filterMap.mp member
  obtain ⟨_, rfl, rfl⟩ := Option.map_eq_some_iff.mp same
  exact inside

theorem mem_settings_iff {given : Given} {field : String × String} {value : Option Value}
    (member : (field, value) ∈ given.fields) (found : Value) :
    (field, found) ∈ given.settings ↔ value = some found := by
  constructor
  · intro other
    have same := List.inj_on_of_nodup_map (nodup_fields given) member (mem_fields other) rfl
    exact (Prod.mk.inj same).2
  · rintro rfl
    exact List.mem_filterMap.mpr ⟨(field, some found), member, rfl⟩

theorem nodup_settings (given : Given) : (given.settings.map Prod.fst).Nodup := by
  have sublist (fields : List ((String × String) × Option Value)) :
      List.Sublist ((fields.filterMap fun field => field.2.map fun value => (field.1, value)).map
        Prod.fst) (fields.map Prod.fst) := by
    induction fields with
    | nil => exact List.Sublist.refl []
    | cons field fields ih =>
      obtain ⟨key, value⟩ := field
      cases value with
      | none => exact ih.cons key
      | some value => exact ih.cons_cons key
  exact (nodup_fields given).sublist (sublist given.fields)

/-! Reading one section. -/

section reading
variable {σ α β : Type}

private theorem ofEntries?_nil (fields : List (Config.Field σ)) (settings : σ) :
    ofEntries? fields [] settings = some settings := by
  induction fields with
  | nil => rfl
  | cons field fields ih => exact ih

theorem ofEntries?_cons (first : Config.Field σ) (fields : List (Config.Field σ))
    (entries : Entries) (settings : σ) :
    ofEntries? (first :: fields) entries settings =
      (match entries.lookup first.name with
        | some value => first.set? value settings
        | none => some settings).bind (ofEntries? fields entries) := by
  unfold ofEntries?
  rw [List.foldlM_cons]
  rfl

theorem ofEntries?_field {name : String} {read? : Value → Option α} {set : α → σ → σ}
    {given : Option β} {write : β → Value} {view : β → α}
    (reads : ∀ value, read? (write value) = some (view value)) {entries : Entries}
    (found : entries.lookup name = given.map write) (fields : List (Config.Field σ))
    (settings : σ) :
    ofEntries? (field name read? set :: fields) entries settings =
      ofEntries? fields entries (given.elim settings fun value => set (view value) settings) := by
  rw [ofEntries?_cons]
  simp only [field, found]
  cases given with
  | none => rfl
  | some value => simp [reads]

variable {name : String} {entries : Entries} {fields : List (Config.Field σ)} {settings : σ}

theorem ofEntries?_text {set : String → σ → σ} {given : Option String}
    (found : entries.lookup name = given.map .text) :
    ofEntries? (field name text? set :: fields) entries settings =
      ofEntries? fields entries (given.elim settings fun value => set value settings) := by
  have reads (value : String) : text? (.text value) = some value := rfl
  exact ofEntries?_field reads found fields settings

theorem ofEntries?_flag {set : Bool → σ → σ} {given : Option Bool}
    (found : entries.lookup name = given.map .boolean) :
    ofEntries? (field name flag? set :: fields) entries settings =
      ofEntries? fields entries (given.elim settings fun value => set value settings) := by
  have reads (value : Bool) : flag? (.boolean value) = some value := rfl
  exact ofEntries?_field reads found fields settings

theorem ofEntries?_size {set : Nat → σ → σ} {given : Option Size}
    (found : entries.lookup name = given.map sizeValue) :
    ofEntries? (field name size? set :: fields) entries settings =
      ofEntries? fields entries (given.elim settings fun value => set value.val settings) := by
  have reads (n : Size) : size? (sizeValue n) = some n.val := by simp [size?, sizeValue]
  exact ofEntries?_field reads found fields settings

end reading

/-! Reading the sections. -/

def sectionTable? : Option Value → Option Entries
  | none => some []
  | some (.table _ table) => some table
  | some _ => none

def readSection? {σ : Type} (fields : List (Config.Field σ)) (default : σ) (value : Option Value) :
    Option σ :=
  (sectionTable? value).bind fun table => ofEntries? fields table default

theorem ofEntries?_section {σ : Type} {name : String} {fields : List (Config.Field σ)}
    {default settings : σ} {set : σ → Config → Config} {entries : Entries} {config : Config}
    (read : readSection? fields default (entries.lookup name) = some settings)
    (same : set default config = config) (rest : List (Config.Field Config)) :
    ofEntries? (sectionField name fields default set :: rest) entries config =
      ofEntries? rest entries (set settings config) := by
  rw [ofEntries?_cons]
  simp only [sectionField, field]
  cases found : entries.lookup name with
  | none =>
    rw [found] at read
    have nothing : ofEntries? fields [] default = some settings := read
    rw [ofEntries?_nil] at nothing
    obtain rfl := Option.some.inj nothing
    rw [same]
    rfl
  | some value =>
    rw [found] at read
    cases value with
    | table origin table =>
      have taken : ofEntries? fields table default = some settings := read
      simp only [section?, taken]
      rfl
    | _ => cases read

/-- Tables in which the given values stand where they belong, and none where none is given. -/
def Holds (given : Given) (entries : Entries) : Prop :=
  ∀ name ∈ schema.map Prod.fst, ∃ table, sectionTable? (entries.lookup name) = some table ∧
    ∀ key value, ((name, key), value) ∈ given.fields → table.lookup key = value

section sections
variable {given : Given} {entries : Entries} (holds : Holds given entries)
include holds

private theorem listener_read :
    readSection? listenerFields {} (entries.lookup "listener") = some given.config.listener := by
  obtain ⟨table, stands, has⟩ := holds "listener" (by decide)
  have bindAddress : table.lookup "bind_address" = given.bindAddress.map .text :=
    has _ _ (by simp [Given.fields])
  rw [readSection?, stands, Option.bind_some, listenerFields, ofEntries?_text bindAddress]
  simp only [Given.config]
  cases given.bindAddress <;> rfl

private theorem throttle_read :
    readSection? throttleFields {} (entries.lookup "throttle") = some given.config.throttle := by
  obtain ⟨table, stands, has⟩ := holds "throttle" (by decide)
  have minInterval : table.lookup "min_interval_ns" = given.minInterval.map sizeValue :=
    has _ _ (by simp [Given.fields])
  rw [readSection?, stands, Option.bind_some, throttleFields, ofEntries?_size minInterval]
  simp only [Given.config]
  cases given.minInterval <;> rfl

private theorem store_read :
    readSection? storeFields {} (entries.lookup "store") = some given.config.store := by
  obtain ⟨table, stands, has⟩ := holds "store" (by decide)
  have path : table.lookup "database_path" = given.databasePath.map .text :=
    has _ _ (by simp [Given.fields])
  rw [readSection?, stands, Option.bind_some, storeFields, ofEntries?_text path]
  simp only [Given.config]
  cases given.databasePath <;> rfl

private theorem paste_read :
    readSection? pasteFields {} (entries.lookup "paste") = some given.config.paste := by
  obtain ⟨table, stands, has⟩ := holds "paste" (by decide)
  have enabled : table.lookup "enabled" = given.pasteEnabled.map .boolean :=
    has _ _ (by simp [Given.fields])
  have endpoint : table.lookup "endpoint" = given.pasteEndpoint.map .text :=
    has _ _ (by simp [Given.fields])
  have timeout : table.lookup "timeout_secs" = given.pasteTimeout.map sizeValue :=
    has _ _ (by simp [Given.fields])
  rw [readSection?, stands, Option.bind_some, pasteFields, ofEntries?_flag enabled,
    ofEntries?_text endpoint, ofEntries?_size timeout]
  simp only [Given.config]
  cases given.pasteEnabled <;> cases given.pasteEndpoint <;> cases given.pasteTimeout <;> rfl

private theorem timeouts_read :
    readSection? timeoutFields {} (entries.lookup "timeouts") = some given.config.timeouts := by
  obtain ⟨table, stands, has⟩ := holds "timeouts" (by decide)
  have request : table.lookup "request_secs" = given.requestTimeout.map sizeValue :=
    has _ _ (by simp [Given.fields])
  rw [readSection?, stands, Option.bind_some, timeoutFields, ofEntries?_size request]
  simp only [Given.config]
  cases given.requestTimeout <;> rfl

private theorem security_read :
    readSection? securityFields {} (entries.lookup "security") = some given.config.security := by
  obtain ⟨table, stands, has⟩ := holds "security" (by decide)
  have headers : table.lookup "enable_headers" = given.enableHeaders.map .boolean :=
    has _ _ (by simp [Given.fields])
  have maxBodySize : table.lookup "max_body_size" = given.maxBodySize.map sizeValue :=
    has _ _ (by simp [Given.fields])
  rw [readSection?, stands, Option.bind_some, securityFields, ofEntries?_flag headers,
    ofEntries?_size maxBodySize]
  simp only [Given.config]
  cases given.enableHeaders <;> cases given.maxBodySize <;> rfl

private theorem observability_read :
    readSection? observabilityFields {} (entries.lookup "observability") =
      some given.config.observability := by
  obtain ⟨table, stands, has⟩ := holds "observability" (by decide)
  have logLevel : table.lookup "log_level" = given.logLevel.map .text :=
    has _ _ (by simp [Given.fields])
  have metricsEnabled : table.lookup "metrics_enabled" = given.metricsEnabled.map .boolean :=
    has _ _ (by simp [Given.fields])
  have metricsAddress : table.lookup "metrics_address" = given.metricsAddress.map .text :=
    has _ _ (by simp [Given.fields])
  rw [readSection?, stands, Option.bind_some, observabilityFields, ofEntries?_text logLevel,
    ofEntries?_flag metricsEnabled, ofEntries?_text metricsAddress]
  simp only [Given.config]
  cases given.logLevel <;> cases given.metricsEnabled <;> cases given.metricsAddress <;> rfl

theorem ofEntries?_given : ofEntries? sections entries {} = some given.config := by
  unfold sections
  rw [ofEntries?_section (listener_read holds) rfl, ofEntries?_section (throttle_read holds) rfl,
    ofEntries?_section (store_read holds) rfl, ofEntries?_section (paste_read holds) rfl,
    ofEntries?_section (timeouts_read holds) rfl, ofEntries?_section (security_read holds) rfl,
    ofEntries?_section (observability_read holds) rfl]
  rfl

end sections

end NoteBoard.Proofs.ConfigValues
