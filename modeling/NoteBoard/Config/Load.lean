import NoteBoard.Config.Check
import NoteBoard.Text.Utf8
import NoteBoard.Toml.Document

/-! Reading a configuration from a document. A section is a table of its fields, or an array of
their values in the order of declaration; what is missing has its default, and keys that are not
known are passed over. -/

namespace NoteBoard

inductive ConfigError where
  /-- There is no such file, or it holds no text. -/
  | unreadable
  | malformed
  | invalid (violations : List Violation)
  deriving DecidableEq, Repr

/-- The message for violations; the other two errors have no stable text. -/
def ConfigError.message? : ConfigError → Option String
  | .unreadable | .malformed => none
  | .invalid violations =>
    some ("Validation failed: " ++ ", ".intercalate (violations.map Violation.render))

namespace Config

open Toml

/-- A field of a section and how it takes a value. -/
structure Field (σ : Type) where
  name : String
  set? : Value → σ → Option σ

def text? : Value → Option String
  | .text content => some content
  | _ => none

def size? : Value → Option Nat
  | .integer number => if 0 ≤ number then some number.toNat else none
  | _ => none

def flag? : Value → Option Bool
  | .boolean value => some value
  | _ => none

def field {σ α : Type} (name : String) (read? : Value → Option α) (set : α → σ → σ) : Field σ :=
  ⟨name, fun value settings => (read? value).map (set · settings)⟩

def ofEntries? {σ : Type} (fields : List (Field σ)) (entries : Entries) (settings : σ) : Option σ :=
  fields.foldlM (fun settings field =>
    match entries.lookup field.name with
    | some value => field.set? value settings
    | none => some settings) settings

/-- Sets the fields one after the other; items beyond the last field do not count. -/
def ofItems? {σ : Type} (fields : List (Field σ)) (items : List Value) (settings : σ) : Option σ :=
  (fields.zip items).foldlM (fun settings (field, value) => field.set? value settings) settings

/-- A date or time counts as a section that sets no field. -/
def section? {σ : Type} (fields : List (Field σ)) (settings : σ) : Value → Option σ
  | .table _ entries => ofEntries? fields entries settings
  | .array items => ofItems? fields items settings
  | .tables elements => ofItems? fields (elements.map (Value.table .header)) settings
  | .moment _ => some settings
  | .text _ | .integer _ | .float _ | .boolean _ => none

def sectionField {σ : Type} (name : String) (fields : List (Field σ)) (default : σ)
    (set : σ → Config → Config) : Field Config :=
  field name (section? fields default) set

def listenerFields : List (Field Listener) := [
  field "bind_address" text? fun bindAddress listener => { listener with bindAddress }]

def throttleFields : List (Field Spacing) := [
  field "min_interval_ns" size? fun minInterval throttle => { throttle with minInterval }]

def storeFields : List (Field Database) := [
  field "database_path" text? fun path store => { store with path }]

def pasteFields : List (Field PasteService) := [
  field "enabled" flag? fun enabled paste => { paste with enabled },
  field "endpoint" text? fun endpoint paste => { paste with endpoint },
  field "timeout_secs" size? fun timeout paste => { paste with timeout }]

def timeoutFields : List (Field Timeouts) := [
  field "request_secs" size? fun request timeouts => { timeouts with request }]

def securityFields : List (Field Hardening) := [
  field "enable_headers" flag? fun headers security => { security with headers },
  field "max_body_size" size? fun maxBodySize security => { security with maxBodySize }]

def observabilityFields : List (Field Observation) := [
  field "log_level" text? fun logLevel observability => { observability with logLevel },
  field "metrics_enabled" flag? fun metricsEnabled observability =>
    { observability with metricsEnabled },
  field "metrics_address" text? fun metricsAddress observability =>
    { observability with metricsAddress }]

def sections : List (Field Config) := [
  sectionField "listener" listenerFields {} fun listener config => { config with listener },
  sectionField "throttle" throttleFields {} fun throttle config => { config with throttle },
  sectionField "store" storeFields {} fun store config => { config with store },
  sectionField "paste" pasteFields {} fun paste config => { config with paste },
  sectionField "timeouts" timeoutFields {} fun timeouts config => { config with timeouts },
  sectionField "security" securityFields {} fun security config => { config with security },
  sectionField "observability" observabilityFields {} fun observability config =>
    { config with observability }]

/-- The configuration a document describes, whether it is valid or not. -/
def ofDocument? (text : String) : Option Config := do
  ofEntries? sections (← Toml.parse? text) {}

def parse (text : String) : Except ConfigError Config :=
  match ofDocument? text with
  | none => .error .malformed
  | some config =>
    if config.violations.isEmpty then .ok config else .error (.invalid config.violations)

/-- The configuration in a file with these bytes; `none` stands for a missing file. -/
def load (file : Option (List UInt8)) : Except ConfigError Config :=
  match file.bind Utf8.decode? with
  | some text => parse (String.ofList text)
  | none => .error .unreadable

end Config

end NoteBoard
