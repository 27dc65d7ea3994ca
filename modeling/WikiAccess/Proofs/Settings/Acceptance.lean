import Mathlib.Logic.Function.Basic
import WikiAccess.Log.Settings
import WikiAccess.Proofs.Text.Spelling
import WikiAccess.Settings

/-!
# Variables that make settings

The variables of a wiki and of its log are read in two ways.  The application name and the
filter are taken as they are, the name only when it shows something.  The switch for plurals
and the format of the log are words, and any spelling of a word counts for it.

`settings_accepted_exactly` says which variables make settings and which ones, and what an
error quotes: a switch as it was set, and a format as the word that it spells.  So another
spelling of a switch or of a format changes nothing but the quoted switch.
-/

namespace WikiAccess

theorem exists_eq_ok_iff {ε α : Type} {result : Except ε α} :
    (∃ value, result = .ok value) ↔ ∀ error, result ≠ .error error := by
  cases result <;> simp

/-- What a variable gives: the default when it is unset, and otherwise something that its text
means. -/
def Environment.Gives {α : Type} (environment : Environment) (name : String)
    (means : String → α → Prop) (default value : α) : Prop :=
  (environment name = none ∧ value = default) ∨
    ∃ raw, environment name = some raw ∧ means raw value

section Gives

variable {α : Type} {environment : Environment} {name : String} {means : String → α → Prop}
  {default value : α}

theorem Environment.gives_of_none (h : environment name = none) :
    Gives environment name means default value ↔ default = value := by
  simp [Gives, h, eq_comm]

theorem Environment.gives_of_some {raw : String} (h : environment name = some raw) :
    Gives environment name means default value ↔ means raw value := by
  simp [Gives, h]

end Gives

/-! ## Settings of the wiki -/

/-- The same error, which quotes another text of the switch. -/
def SettingsError.quoting (raw : String) : SettingsError → SettingsError
  | .application cause => .application cause
  | .plurals _ => .plurals raw

namespace Settings

variable {environment : Environment} {raw : String}

/-- The words for a switch that is on and for one that is off. -/
def switchWords : Bool → List String
  | true => ["true", "1", "yes", "on"]
  | false => ["false", "0", "no", "off"]

/-- The text is a word for a switch in that position. -/
def Switches (raw : String) (value : Bool) : Prop :=
  ∃ word ∈ switchWords value, Text.Spells raw word

/-- The text is the name of the application, as it is. -/
def Names (raw : String) (application : ApplicationName) : Prop :=
  application.text = raw ∧ application.Shows

/-- The application name is set to a text that shows nothing. -/
def NameIsBlank (environment : Environment) : Prop :=
  ∃ raw, environment applicationVariable = some raw ∧ ∀ c ∈ raw.toList, Text.isBlank c = true

/-- The switch for plurals is set to a text that is no word for a switch. -/
def SwitchIsUnknown (environment : Environment) (raw : String) : Prop :=
  environment pluralsVariable = some raw ∧ ∀ value, ¬ Switches raw value

theorem ofSwitch?_eq_some_iff {value : Bool} : ofSwitch? raw = some value ↔ Switches raw value := by
  rw [Switches, Text.exists_spells_iff]
  unfold ofSwitch?
  split <;> cases value <;> simp_all [switchWords]

example : ofSwitch? "\u3000yEs\u0085" = some true := by decide

theorem ofSwitch?_eq_none_iff : ofSwitch? raw = none ↔ ∀ value, ¬ Switches raw value := by
  simp only [Option.eq_none_iff_forall_ne_some, Ne, ofSwitch?_eq_some_iff]

/-! ### Each variable -/

theorem parse_eq_ok_iff_names {application : ApplicationName} :
    Name.parse .application raw = .ok application ↔ Names raw application := by
  rw [Name.parse_eq_ok_iff, Names, Name.shows_iff, Name.ext_iff]
  constructor
  · rintro ⟨hblank, rfl⟩
    exact ⟨rfl, hblank⟩
  · rintro ⟨rfl, hblank⟩
    exact ⟨hblank, rfl⟩

theorem readApplication_eq_error_iff {error : SettingsError} :
    readApplication environment = .error error ↔
      error = .application ⟨.application⟩ ∧ NameIsBlank environment := by
  unfold readApplication NameIsBlank
  cases environment applicationVariable with
  | none => simp
  | some raw =>
    have hall : (∀ c ∈ raw.toList, Text.isBlank c = true) ↔ Text.isBlankText raw = true :=
      List.all_eq_true.symm
    simp only [Option.some.injEq, exists_eq_left', hall]
    cases hblank : Text.isBlankText raw with
    | true =>
      rw [Name.parse_eq_error_iff.mpr ⟨hblank, rfl⟩]
      simp [Except.mapError, eq_comm]
    | false =>
      rw [Name.parse_eq_ok_iff.mpr ⟨hblank, rfl⟩]
      simp [Except.mapError]

theorem readApplication_eq_ok_iff {application : ApplicationName} :
    readApplication environment = .ok application ↔
      Environment.Gives environment applicationVariable Names defaults.application application := by
  unfold readApplication
  cases h : environment applicationVariable with
  | none => rw [Environment.gives_of_none h, Except.ok.injEq]
  | some raw =>
    rw [Environment.gives_of_some h, ← parse_eq_ok_iff_names]
    cases hname : Name.parse .application raw <;> simp [hname, Except.mapError]

theorem readPlurals_eq_error_iff {error : SettingsError} :
    readPlurals environment = .error error ↔
      ∃ raw, error = .plurals raw ∧ SwitchIsUnknown environment raw := by
  unfold readPlurals SwitchIsUnknown
  simp only [← ofSwitch?_eq_none_iff]
  cases environment pluralsVariable with
  | none => simp
  | some raw =>
    cases hswitch : ofSwitch? raw with
    | none => simp [hswitch, eq_comm]
    | some value => simp [hswitch]

theorem readPlurals_eq_ok_iff {value : Bool} :
    readPlurals environment = .ok value ↔
      Environment.Gives environment pluralsVariable Switches defaults.matchesPlurals value := by
  unfold readPlurals
  cases h : environment pluralsVariable with
  | none => rw [Environment.gives_of_none h, Except.ok.injEq]
  | some raw =>
    rw [Environment.gives_of_some h, ← ofSwitch?_eq_some_iff]
    cases hswitch : ofSwitch? raw <;> simp [hswitch]

/-! ### All variables -/

/-- An error about the application name comes first. -/
theorem ofEnvironment_eq_error_iff {error : SettingsError} :
    ofEnvironment environment = .error error ↔
      readApplication environment = .error error ∨
        (∃ application, readApplication environment = .ok application) ∧
          readPlurals environment = .error error := by
  unfold ofEnvironment
  cases readApplication environment with
  | error cause => simp [bind, Except.bind]
  | ok application =>
    cases readPlurals environment <;> simp [bind, Except.bind, pure, Except.pure]

theorem ofEnvironment_eq_ok_iff {settings : Settings} :
    ofEnvironment environment = .ok settings ↔
      readApplication environment = .ok settings.application ∧
        readPlurals environment = .ok settings.matchesPlurals := by
  unfold ofEnvironment
  cases readApplication environment with
  | error cause => simp [bind, Except.bind]
  | ok application =>
    cases readPlurals environment with
    | error cause => simp [bind, Except.bind]
    | ok value =>
      cases settings
      simp [bind, Except.bind, pure, Except.pure]

theorem exists_readApplication_eq_ok_iff :
    (∃ application, readApplication environment = .ok application) ↔ ¬ NameIsBlank environment := by
  rw [exists_eq_ok_iff]
  simp [readApplication_eq_error_iff]

theorem ofEnvironment_eq_application_error_iff {cause : NameError} :
    ofEnvironment environment = .error (.application cause) ↔
      cause = ⟨.application⟩ ∧ NameIsBlank environment := by
  rw [ofEnvironment_eq_error_iff, readApplication_eq_error_iff, readPlurals_eq_error_iff]
  simp

theorem ofEnvironment_eq_plurals_error_iff :
    ofEnvironment environment = .error (.plurals raw) ↔
      ¬ NameIsBlank environment ∧ SwitchIsUnknown environment raw := by
  rw [ofEnvironment_eq_error_iff, readApplication_eq_error_iff, readPlurals_eq_error_iff,
    exists_readApplication_eq_ok_iff]
  simp

theorem exists_ofEnvironment_eq_ok_iff :
    (∃ settings, ofEnvironment environment = .ok settings) ↔
      ¬ NameIsBlank environment ∧ ∀ raw, ¬ SwitchIsUnknown environment raw := by
  rw [exists_eq_ok_iff]
  constructor
  · intro h
    have hname : ¬ NameIsBlank environment :=
      fun hblank => h _ (ofEnvironment_eq_application_error_iff.mpr ⟨rfl, hblank⟩)
    exact ⟨hname, fun raw hswitch =>
      h _ (ofEnvironment_eq_plurals_error_iff.mpr ⟨hname, hswitch⟩)⟩
  · intro ⟨hname, hswitch⟩ error h
    cases error with
    | application cause => exact hname (ofEnvironment_eq_application_error_iff.mp h).2
    | plurals raw => exact hswitch raw (ofEnvironment_eq_plurals_error_iff.mp h).2

/-! ### Another spelling of the switch -/

theorem readApplication_update_plurals (environment : Environment) (value : Option String) :
    readApplication (Function.update environment pluralsVariable value) =
      readApplication environment := by
  have hne : applicationVariable ≠ pluralsVariable := by decide
  rw [readApplication, readApplication, Function.update_of_ne hne]

section Respelling

variable {other : String} (h : Text.IsRespelling other raw)

include h

theorem readPlurals_of_isRespelling :
    readPlurals (Function.update environment pluralsVariable (some other)) =
      (readPlurals (Function.update environment pluralsVariable (some raw))).mapError
        (SettingsError.quoting other) := by
  have hswitch : ofSwitch? other = ofSwitch? raw := by
    rw [ofSwitch?, ofSwitch?, Text.normalized_of_isRespelling h]
  simp only [readPlurals, Function.update_self, hswitch]
  cases ofSwitch? raw <;> rfl

theorem ofEnvironment_of_isRespelling :
    ofEnvironment (Function.update environment pluralsVariable (some other)) =
      (ofEnvironment (Function.update environment pluralsVariable (some raw))).mapError
        (SettingsError.quoting other) := by
  unfold ofEnvironment
  rw [readApplication_update_plurals, readApplication_update_plurals,
    readPlurals_of_isRespelling h]
  cases hname : readApplication environment with
  | error error =>
    rw [(readApplication_eq_error_iff.mp hname).1]
    rfl
  | ok application =>
    cases readPlurals (Function.update environment pluralsVariable (some raw)) <;> rfl

end Respelling

end Settings

/-! ## Settings of the log -/

namespace Log
namespace Format

/-- The words for a format. -/
def words : Format → List String
  | .json => ["json"]
  | .pretty => ["pretty", "text"]

/-- The text is a word for the format. -/
def Names (raw : String) (format : Format) : Prop := ∃ word ∈ words format, Text.Spells raw word

variable {raw : String}

theorem parse_eq_ok_iff {format : Format} : parse raw = .ok format ↔ Names raw format := by
  rw [Names, Text.exists_spells_iff]
  unfold parse
  split <;> cases format <;> simp_all [words]

/-- An error quotes the word that the text spells. -/
theorem spells_of_parse_eq_error {error : FormatError} (h : parse raw = .error error) :
    Text.Spells raw error.name := by
  rw [← Text.normalized_eq_iff]
  unfold parse at h
  split at h <;> cases h
  rfl

theorem parse_eq_error_iff {word : String} :
    parse raw = .error ⟨word⟩ ↔ Text.Spells raw word ∧ ∀ format, ¬ Names raw format := by
  simp only [← parse_eq_ok_iff]
  constructor
  · intro h
    exact ⟨spells_of_parse_eq_error h, by simp [h]⟩
  · intro ⟨hword, hnone⟩
    cases h : parse raw with
    | ok format => exact absurd h (hnone format)
    | error error =>
      have hquoted : Text.normalized raw = error.name :=
        Text.normalized_eq_iff.mpr (spells_of_parse_eq_error h)
      rw [← Text.normalized_eq_iff, hquoted] at hword
      rw [← hword]

theorem parse_of_isRespelling {other : String} (h : Text.IsRespelling other raw) :
    parse other = parse raw := by
  rw [parse, parse, Text.normalized_of_isRespelling h]

end Format

namespace Settings

variable {environment : Environment}

/-- The format is set to a text that spells this word, which is no word for a format. -/
def FormatIsUnknown (environment : Environment) (word : String) : Prop :=
  ∃ raw, environment formatVariable = some raw ∧ Text.Spells raw word ∧
    ∀ format, ¬ Format.Names raw format

theorem ofEnvironment_eq_error_iff {word : String} :
    ofEnvironment environment = .error ⟨⟨word⟩⟩ ↔ FormatIsUnknown environment word := by
  unfold ofEnvironment FormatIsUnknown
  cases environment formatVariable with
  | none => simp
  | some raw =>
    simp only [Option.some.injEq, exists_eq_left', ← Format.parse_eq_error_iff]
    cases Format.parse raw <;> simp

theorem ofEnvironment_eq_ok_iff {settings : Settings} :
    ofEnvironment environment = .ok settings ↔
      settings.filter = (environment filterVariable).getD defaults.filter ∧
        Environment.Gives environment formatVariable Format.Names defaults.format
          settings.format := by
  obtain ⟨filter, format⟩ := settings
  unfold ofEnvironment
  cases h : environment formatVariable with
  | none =>
    rw [Environment.gives_of_none h]
    simp [eq_comm]
  | some raw =>
    rw [Environment.gives_of_some h, ← Format.parse_eq_ok_iff]
    cases hformat : Format.parse raw <;> simp [hformat, eq_comm]

theorem exists_ofEnvironment_eq_ok_iff :
    (∃ settings, ofEnvironment environment = .ok settings) ↔
      ∀ word, ¬ FormatIsUnknown environment word := by
  rw [exists_eq_ok_iff]
  simp only [← ofEnvironment_eq_error_iff]
  constructor
  · exact fun h word => h ⟨⟨word⟩⟩
  · exact fun h error => h error.cause.name

/-- The filter is not looked at. -/
theorem ofEnvironment_update_filter (environment : Environment) (filter : Option String) :
    ofEnvironment (Function.update environment filterVariable filter) =
      (ofEnvironment environment).map fun settings =>
        { settings with filter := filter.getD defaults.filter } := by
  have hne : formatVariable ≠ filterVariable := by decide
  simp only [ofEnvironment, Function.update_self, Function.update_of_ne hne]
  cases environment formatVariable with
  | none => rfl
  | some raw => cases hformat : Format.parse raw <;> simp [hformat, Except.map]

theorem ofEnvironment_of_isRespelling {raw other : String} (h : Text.IsRespelling other raw) :
    ofEnvironment (Function.update environment formatVariable (some other)) =
      ofEnvironment (Function.update environment formatVariable (some raw)) := by
  have hne : filterVariable ≠ formatVariable := by decide
  simp only [ofEnvironment, Function.update_self, Function.update_of_ne hne,
    Format.parse_of_isRespelling h]

end Settings
end Log

/-! ## What is accepted, and what errors quote -/

theorem Settings.message_application :
    (SettingsError.application ⟨.application⟩).message =
      "invalid configuration: WIKI_APPLICATION_NAME: " ++
        "invalid name: application name must not be empty" := by
  decide

theorem Settings.message_plurals (raw : String) :
    (SettingsError.plurals raw).message =
      "invalid configuration: WIKI_MATCH_ENGLISH_PLURALS: expected true/false, got '" ++
        raw ++ "'" := by
  have hlead : "invalid configuration: " ++ pluralsVariable ++ ": expected true/false, got '" =
      "invalid configuration: WIKI_MATCH_ENGLISH_PLURALS: expected true/false, got '" := by
    decide
  exact congrArg (fun lead => lead ++ raw ++ "'") hlead

theorem Log.Settings.message_format (word : String) :
    (Log.SettingsError.mk ⟨word⟩).message =
      "reading WIKI_LOG_FORMAT: unknown log format '" ++ word ++
        "' (expected json or pretty)" := by
  have hlead : "reading " ++ formatVariable ++ ": " ++ "unknown log format '" =
      "reading WIKI_LOG_FORMAT: unknown log format '" := by
    decide
  have htext : (Log.SettingsError.mk ⟨word⟩).message =
      "reading " ++ formatVariable ++ ": " ++ "unknown log format '" ++ word ++
        "' (expected json or pretty)" := by
    show "reading " ++ formatVariable ++ ": " ++
      ("unknown log format '" ++ word ++ "' (expected json or pretty)") = _
    rw [← String.append_assoc, ← String.append_assoc]
  rw [htext]
  exact congrArg (fun lead => lead ++ word ++ "' (expected json or pretty)") hlead

/-- Which variables make settings, and which settings they make.

* An application name that is set to blank text is an error, whatever else is set.  Otherwise a
  switch that is set to no word for a switch is an error, which quotes the text as it was set.
  Otherwise there are settings: the name as it was set, which shows something, and what the
  switch says, with the defaults for what is unset.
* A log format that is set to no word for a format is an error, which quotes the word that the
  text spells.  Otherwise there are settings, with the filter as it was set.  No filter changes
  what is accepted, or the format.
* A switch or a format in another spelling, padded with blank characters or with letters in the
  other case, changes nothing but the text of the switch that an error quotes. -/
theorem settings_accepted_exactly :
    (∀ environment : Environment,
      let outcome := Settings.ofEnvironment environment
      (∀ cause, outcome = .error (.application cause) ↔
        cause = ⟨.application⟩ ∧ Settings.NameIsBlank environment) ∧
      (∀ raw, outcome = .error (.plurals raw) ↔
        ¬ Settings.NameIsBlank environment ∧ Settings.SwitchIsUnknown environment raw) ∧
      ((∃ settings, outcome = .ok settings) ↔
        ¬ Settings.NameIsBlank environment ∧
          ∀ raw, ¬ Settings.SwitchIsUnknown environment raw) ∧
      (∀ settings, outcome = .ok settings ↔
        Environment.Gives environment Settings.applicationVariable Settings.Names ⟨"JSPWiki"⟩
          settings.application ∧
        Environment.Gives environment Settings.pluralsVariable Settings.Switches true
          settings.matchesPlurals)) ∧
    (∀ environment : Environment,
      let outcome := Log.Settings.ofEnvironment environment
      (∀ word, outcome = .error ⟨⟨word⟩⟩ ↔ Log.Settings.FormatIsUnknown environment word) ∧
      ((∃ settings, outcome = .ok settings) ↔
        ∀ word, ¬ Log.Settings.FormatIsUnknown environment word) ∧
      (∀ settings, outcome = .ok settings ↔
        settings.filter = (environment Log.Settings.filterVariable).getD "info" ∧
        Environment.Gives environment Log.Settings.formatVariable Log.Format.Names .json
          settings.format) ∧
      (∀ filter,
        Log.Settings.ofEnvironment
            (Function.update environment Log.Settings.filterVariable filter) =
          outcome.map fun settings => { settings with filter := filter.getD "info" })) ∧
    (∀ (environment : Environment) (raw other : String), Text.IsRespelling other raw →
      let switched (text : String) := Settings.ofEnvironment
        (Function.update environment Settings.pluralsVariable (some text))
      let formatted (text : String) := Log.Settings.ofEnvironment
        (Function.update environment Log.Settings.formatVariable (some text))
      switched other = (switched raw).mapError (SettingsError.quoting other) ∧
        formatted other = formatted raw) ∧
    (SettingsError.application ⟨.application⟩).message =
      "invalid configuration: WIKI_APPLICATION_NAME: " ++
        "invalid name: application name must not be empty" ∧
    (∀ raw, (SettingsError.plurals raw).message =
      "invalid configuration: WIKI_MATCH_ENGLISH_PLURALS: expected true/false, got '" ++
        raw ++ "'") ∧
    (∀ word, (Log.SettingsError.mk ⟨word⟩).message =
      "reading WIKI_LOG_FORMAT: unknown log format '" ++ word ++
        "' (expected json or pretty)") := by
  refine ⟨?_, ?_, ?_, Settings.message_application, Settings.message_plurals,
    Log.Settings.message_format⟩
  · intro environment outcome
    refine ⟨fun _ => Settings.ofEnvironment_eq_application_error_iff,
      fun _ => Settings.ofEnvironment_eq_plurals_error_iff,
      Settings.exists_ofEnvironment_eq_ok_iff, ?_⟩
    intro settings
    rw [Settings.ofEnvironment_eq_ok_iff, Settings.readApplication_eq_ok_iff,
      Settings.readPlurals_eq_ok_iff]
    exact Iff.rfl
  · intro environment outcome
    exact ⟨fun _ => Log.Settings.ofEnvironment_eq_error_iff,
      Log.Settings.exists_ofEnvironment_eq_ok_iff, fun _ => Log.Settings.ofEnvironment_eq_ok_iff,
      Log.Settings.ofEnvironment_update_filter environment⟩
  · intro environment raw other h
    exact ⟨Settings.ofEnvironment_of_isRespelling h, Log.Settings.ofEnvironment_of_isRespelling h⟩

end WikiAccess
