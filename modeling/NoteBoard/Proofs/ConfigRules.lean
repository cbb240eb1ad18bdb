import NoteBoard.Config.Load
import NoteBoard.Proofs.PasteExchange

/-! Which settings of a configuration are reported. Each rule looks at the value of its own setting
and at most at a switch that no rule checks, so no violation hides or brings about another one. -/

namespace NoteBoard.Proofs.ConfigRules
open PasteExchange

/-- The settings that are checked. -/
inductive Setting where
  | bindAddress
  | databasePath
  | endpoint
  | pasteTimeout
  | requestTimeout
  | bodyLimit
  | metricsAddress
  deriving DecidableEq

namespace Setting

/-- In the order of the check. -/
def all : List Setting :=
  [bindAddress, databasePath, endpoint, pasteTimeout, requestTimeout, bodyLimit, metricsAddress]

def name : Setting → String
  | bindAddress => "listener.bind_address"
  | databasePath => "store.database_path"
  | endpoint => "paste.endpoint"
  | pasteTimeout => "paste.timeout_secs"
  | requestTimeout => "timeouts.request_secs"
  | bodyLimit => "security.max_body_size"
  | metricsAddress => "observability.metrics_address"

/-- The value of a setting is not one that the board can run with. -/
def Broken (config : Config) : Setting → Prop
  | bindAddress => SocketAddress.parse? config.listener.bindAddress = none
  | databasePath => ∀ c ∈ config.store.path.toList, Text.isBlank c = true
  | endpoint => config.paste.enabled = true ∧ ¬ IsWebUrl config.paste.endpoint
  | pasteTimeout => config.paste.enabled = true ∧ config.paste.timeout = 0
  | requestTimeout => config.timeouts.request = 0
  | bodyLimit => config.security.maxBodySize = 0
  | metricsAddress => config.observability.metricsEnabled = true ∧
      SocketAddress.parse? config.observability.metricsAddress = none

/-- Another value is given to a setting; everything else stays, the switches among it. -/
def Edits (config edited : Config) : Setting → Prop
  | bindAddress => ∃ bindAddress, edited = { config with listener.bindAddress := bindAddress }
  | databasePath => ∃ path, edited = { config with store.path := path }
  | endpoint => ∃ endpoint, edited = { config with paste.endpoint := endpoint }
  | pasteTimeout => ∃ timeout, edited = { config with paste.timeout := timeout }
  | requestTimeout => ∃ request, edited = { config with timeouts.request := request }
  | bodyLimit => ∃ maxBodySize, edited = { config with security.maxBodySize := maxBodySize }
  | metricsAddress =>
      ∃ address, edited = { config with observability.metricsAddress := address }

theorem name_injective : Function.Injective name := by
  intro first second same
  cases first <;> cases second <;> simp [name] at same ⊢

theorem mem_all (setting : Setting) : setting ∈ all := by
  cases setting <;> decide

end Setting

theorem addressFault_eq_none_iff (text : String) :
    Config.addressFault text = none ↔ SocketAddress.parse? text ≠ none := by
  unfold Config.addressFault
  cases SocketAddress.parse? text <;> simp

theorem zeroFault_eq_none_iff (n : Nat) : Config.zeroFault n = none ↔ n ≠ 0 := by
  unfold Config.zeroFault
  split <;> simp [*]

private theorem trimChars_eq_nil_iff (text : List Char) :
    Text.trimChars text = [] ↔ ∀ c ∈ text, Text.isBlank c = true := by
  unfold Text.trimChars
  rw [List.reverse_eq_nil_iff, List.dropWhile_eq_nil_iff]
  simp only [List.mem_reverse]
  constructor
  · intro blank c member
    by_contra solid
    have kept : c ∈ text.dropWhile Text.isBlank := by
      have split := List.takeWhile_append_dropWhile (p := Text.isBlank) (l := text)
      rw [← split, List.mem_append] at member
      exact member.resolve_left fun front => solid (List.mem_takeWhile_imp front)
    exact solid (blank c kept)
  · intro blank c member
    exact blank c (List.dropWhile_sublist _ |>.mem member)

private theorem pathFault_eq_none_iff (path : String) :
    Config.pathFault path = none ↔ ¬ ∀ c ∈ path.toList, Text.isBlank c = true := by
  have empty : Text.trim path = "" ↔ Text.trimChars path.toList = [] := by
    rw [Text.trim, ← String.toList_inj, String.toList_ofList]
    rfl
  unfold Config.pathFault
  rw [← trimChars_eq_nil_iff, ← empty]
  split
  next blank => simp [blank]
  next solid => simp only [solid, not_false_eq_true]

private theorem endpointFault_eq_none_iff (endpoint : String) :
    Config.endpointFault endpoint = none ↔ IsWebUrl endpoint := by
  unfold Config.endpointFault IsWebUrl
  cases Url.parse endpoint with
  | error cause => simp
  | ok url => simp [Url.isHttp, or_iff_not_imp_left]

/-- A rule reports its setting where the setting is broken, and only an edit of this setting can
change what it says. -/
structure Covers (setting : Setting) (rule : Config.Rule) : Prop where
  field : rule.field = setting.name
  fault : ∀ config, rule.fault config = none ↔ ¬ setting.Broken config
  own : ∀ config edited other, other ≠ setting → other.Edits config edited →
    rule.fault edited = rule.fault config

theorem rules_cover : List.Forall₂ Covers Setting.all Config.rules := by
  unfold Setting.all Config.rules
  refine .cons ⟨rfl, ?_, ?_⟩ (.cons ⟨rfl, ?_, ?_⟩ (.cons ⟨rfl, ?_, ?_⟩ (.cons ⟨rfl, ?_, ?_⟩
    (.cons ⟨rfl, ?_, ?_⟩ (.cons ⟨rfl, ?_, ?_⟩ (.cons ⟨rfl, ?_, ?_⟩ .nil))))))
  case refine_1 => exact fun config => addressFault_eq_none_iff _
  case refine_3 => exact fun config => pathFault_eq_none_iff _
  case refine_5 =>
    intro config
    simp only [Setting.Broken]
    cases config.paste.enabled <;> simp [endpointFault_eq_none_iff]
  case refine_7 =>
    intro config
    simp only [Setting.Broken]
    cases config.paste.enabled <;> simp [zeroFault_eq_none_iff]
  case refine_9 => exact fun config => zeroFault_eq_none_iff _
  case refine_11 => exact fun config => zeroFault_eq_none_iff _
  case refine_13 =>
    intro config
    simp only [Setting.Broken]
    cases config.observability.metricsEnabled <;> simp [addressFault_eq_none_iff]
  all_goals
    rintro config edited (_ | _ | _ | _ | _ | _ | _) different ⟨value, rfl⟩
    any_goals contradiction
    all_goals rfl

def reported (config : Config) : List String := config.violations.map Violation.field

section rules
variable {setting : Setting} {rule : Config.Rule} {settings : List Setting}
  {rules : List Config.Rule} {config edited : Config}

theorem Covers.field_of_violation? (covers : Covers setting rule) {violation : Violation}
    (found : rule.violation? config = some violation) : violation.field = setting.name := by
  obtain ⟨message, _, rfl⟩ := Option.map_eq_some_iff.mp found
  exact covers.field

theorem Covers.violation?_eq_none_iff (covers : Covers setting rule) :
    rule.violation? config = none ↔ ¬ setting.Broken config := by
  rw [Config.Rule.violation?, Option.map_eq_none_iff, covers.fault]

open Classical in
/-- The reported settings are the broken ones. -/
theorem fields_eq (cover : List.Forall₂ Covers settings rules) (config : Config) :
    (rules.filterMap (·.violation? config)).map Violation.field =
      (settings.filter fun setting => setting.Broken config).map Setting.name := by
  induction cover with
  | nil => rfl
  | @cons first rule settings rules covers _ ih =>
    rw [List.filterMap_cons]
    cases found : rule.violation? config with
    | none =>
      have sound := covers.violation?_eq_none_iff.mp found
      rw [List.filter_cons_of_neg (by simpa using sound)]
      exact ih
    | some violation =>
      have broken : first.Broken config := by
        by_contra sound
        rw [covers.violation?_eq_none_iff.mpr sound] at found
        cases found
      rw [List.filter_cons_of_pos (by simpa using broken), List.map_cons, List.map_cons, ih,
        covers.field_of_violation? found]

theorem Covers.violation?_of_edit {mended : Setting} (covers : Covers setting rule)
    (edits : mended.Edits config edited) (sound : ¬ mended.Broken edited) :
    rule.violation? edited =
      (rule.violation? config).filter fun violation => violation.field ≠ mended.name := by
  by_cases own : setting = mended
  · subst own
    rw [covers.violation?_eq_none_iff.mpr sound]
    cases found : rule.violation? config with
    | none => rfl
    | some violation => simp [Option.filter, covers.field_of_violation? found]
  · have same : rule.violation? edited = rule.violation? config := by
      rw [Config.Rule.violation?, Config.Rule.violation?, covers.own _ _ _ (Ne.symm own) edits]
    rw [same]
    cases found : rule.violation? config with
    | none => rfl
    | some violation =>
      simp [Option.filter, covers.field_of_violation? found, Setting.name_injective.eq_iff, own]

private theorem filterMap_of_edit {mended : Setting} (cover : List.Forall₂ Covers settings rules)
    (edits : mended.Edits config edited) (sound : ¬ mended.Broken edited) :
    rules.filterMap (·.violation? edited) =
      (rules.filterMap (·.violation? config)).filter fun violation =>
        violation.field ≠ mended.name := by
  rw [List.filter_filterMap]
  induction cover with
  | nil => rfl
  | cons covers _ ih =>
    rw [List.filterMap_cons, List.filterMap_cons, covers.violation?_of_edit edits sound, ih]

end rules

theorem mem_reported_iff (config : Config) (setting : Setting) :
    setting.name ∈ reported config ↔ setting.Broken config := by
  rw [reported, Config.violations, fields_eq rules_cover,
    List.mem_map_of_injective Setting.name_injective, List.mem_filter]
  simp only [setting.mem_all, true_and, decide_eq_true_eq]

theorem reported_in_order (config : Config) :
    (reported config).Sublist (Setting.all.map Setting.name) := by
  rw [reported, Config.violations, fields_eq rules_cover]
  exact List.filter_sublist.map _

theorem reported_once (config : Config) : (reported config).Nodup :=
  (reported_in_order config).nodup (by decide)

theorem violations_eq_nil_iff (config : Config) :
    config.violations = [] ↔ ∀ setting : Setting, ¬ setting.Broken config := by
  rw [← List.map_eq_nil_iff (f := Violation.field), Config.violations, fields_eq rules_cover,
    List.map_eq_nil_iff, List.filter_eq_nil_iff]
  simp only [Setting.mem_all, decide_eq_true_iff, forall_const]

private theorem violations_of_repair {config edited : Config} {setting : Setting}
    (edits : setting.Edits config edited) (broken : setting.Broken config)
    (sound : ¬ setting.Broken edited) :
    ∃ before violation after, violation.field = setting.name ∧
      config.violations = before ++ violation :: after ∧ edited.violations = before ++ after := by
  have listed := (mem_reported_iff config setting).mpr broken
  obtain ⟨violation, member, field⟩ := List.mem_map.mp listed
  obtain ⟨before, after, split⟩ := List.append_of_mem member
  refine ⟨before, violation, after, field, split, ?_⟩
  have once := reported_once config
  rw [reported, split, List.map_append, List.map_cons, field, List.perm_middle.nodup_iff,
    List.nodup_cons, ← List.map_append] at once
  have others : ∀ other ∈ before ++ after, other.field ≠ setting.name := by
    intro other member same
    exact once.1 (List.mem_map.mpr ⟨other, member, same⟩)
  have filtered : edited.violations =
      config.violations.filter fun violation => violation.field ≠ setting.name :=
    filterMap_of_edit rules_cover edits sound
  rw [filtered, split, List.filter_append, List.filter_cons_of_neg (by simpa using field),
    ← List.filter_append, List.filter_eq_self]
  intro other member
  exact decide_eq_true (others other member)

structure Checked (config : Config) : Prop where
  broken : ∀ setting : Setting, setting.name ∈ reported config ↔ setting.Broken config
  once : (reported config).Nodup
  ordered : (reported config).Sublist (Setting.all.map Setting.name)
  sound : config.violations = [] ↔ ∀ setting : Setting, ¬ setting.Broken config
  repaired : ∀ (setting : Setting) (edited : Config), setting.Edits config edited →
    setting.Broken config → ¬ setting.Broken edited →
    ∃ before violation after, violation.field = setting.name ∧
      config.violations = before ++ violation :: after ∧ edited.violations = before ++ after

structure Judged (text : String) (config : Config) : Prop where
  accepted : Config.parse text = .ok config ↔ ∀ setting : Setting, ¬ setting.Broken config
  refused : ∀ setting : Setting, setting.Broken config →
    ∃ error, Config.parse text = .error error ∧ error = .invalid config.violations ∧
      error.message? = some ("Validation failed: " ++
        ", ".intercalate (config.violations.map fun violation =>
          violation.field ++ ": " ++ violation.message))

theorem judged_of_described {text : String} {config : Config}
    (described : Config.ofDocument? text = some config) : Judged text config := by
  have outcome : Config.parse text =
      if config.violations.isEmpty then .ok config else .error (.invalid config.violations) := by
    rw [Config.parse, described]
  have sound := violations_eq_nil_iff config
  constructor
  · rw [outcome, ← sound]
    cases config.violations <;> simp
  · intro setting broken
    have unsound : config.violations ≠ [] := fun silent => sound.mp silent setting broken
    refine ⟨_, ?_, rfl, rfl⟩
    rw [outcome, if_neg (by simpa using unsound)]

private theorem described_of_accepted {text : String} {config : Config}
    (accepted : Config.parse text = .ok config) : Config.ofDocument? text = some config := by
  unfold Config.parse at accepted
  split at accepted
  next => cases accepted
  next other described =>
    split at accepted
    next => rw [described, Except.ok.inj accepted]
    next => cases accepted

private theorem open?_of_accepted {text : String} {config : Config}
    (accepted : Config.parse text = .ok config) (enabled : config.paste.enabled = true) :
    ∃ service, Paste.Service.open? config.paste.endpoint = .ok service := by
  have judged := judged_of_described (described_of_accepted accepted)
  have sound := judged.accepted.mp accepted .endpoint
  obtain ⟨url, parsed, _⟩ : IsWebUrl config.paste.endpoint := by
    by_contra other
    exact sound ⟨enabled, other⟩
  exact ⟨⟨url⟩, by rw [Paste.Service.open?, parsed]⟩

/-- The check of a configuration reports the broken settings and no others, each once and in their
order, and what is wrong with one says nothing about another. A document is accepted exactly if the
configuration it describes has no broken setting; a refusal lists them all. With the paste service
enabled, an accepted configuration has an endpoint that the service can be opened with. -/
theorem check_reports_broken_settings :
    (∀ config, Checked config) ∧
    (∀ text config, Config.ofDocument? text = some config → Judged text config) ∧
    ∀ text config, Config.parse text = .ok config → config.paste.enabled = true →
      ∃ service, Paste.Service.open? config.paste.endpoint = .ok service := by
  refine ⟨?_, ?_, ?_⟩
  · intro config
    constructor
    case broken => exact mem_reported_iff config
    case once => exact reported_once config
    case ordered => exact reported_in_order config
    case sound => exact violations_eq_nil_iff config
    case repaired =>
      intro setting edited edits broken sound
      exact violations_of_repair edits broken sound
  · intro text config described
    exact judged_of_described described
  · intro text config accepted enabled
    exact open?_of_accepted accepted enabled

/-- The empty document describes the configuration that is all defaults. It is accepted, and the
paste service is enabled in it. -/
theorem defaults_accepted :
    Judged "" {} ∧ Config.parse "" = .ok {} ∧ ({} : Config).paste.enabled = true ∧
      ∃ service, Paste.Service.open? ({} : Config).paste.endpoint = .ok service := by
  obtain ⟨_, judged, opened⟩ := check_reports_broken_settings
  have described : Config.ofDocument? "" = some {} := by decide +kernel
  have accepted : Config.parse "" = .ok {} := by decide +kernel
  exact ⟨judged "" {} described, accepted, rfl, opened "" {} accepted rfl⟩

end NoteBoard.Proofs.ConfigRules
