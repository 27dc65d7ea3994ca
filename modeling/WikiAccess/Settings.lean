import WikiAccess.Context
import WikiAccess.Environment

/-!
# Settings of a wiki

The application name is kept verbatim and must not be blank.  The switch for
English plurals is read without regard to padding and letter case, and an error
about it quotes the value as it was set.  The application name is looked at
first.
-/

namespace WikiAccess

structure Settings where
  application : ApplicationName
  /-- Whether a page is also looked for under the singular or plural of its
  name. -/
  matchesPlurals : Bool
  deriving DecidableEq, Repr

/-- Why the variables make no settings. -/
inductive SettingsError where
  | application (cause : NameError)
  | plurals (raw : String)
  deriving DecidableEq, Repr

namespace Settings

def applicationVariable : String := "WIKI_APPLICATION_NAME"
def pluralsVariable : String := "WIKI_MATCH_ENGLISH_PLURALS"

def defaults : Settings := ⟨⟨"JSPWiki"⟩, true⟩

/-- The words for a switch that is on and one that is off. -/
def ofSwitch? (raw : String) : Option Bool :=
  match Text.normalized raw with
  | "true" | "1" | "yes" | "on" => some true
  | "false" | "0" | "no" | "off" => some false
  | _ => none

def readApplication (environment : Environment) : Except SettingsError ApplicationName :=
  match environment applicationVariable with
  | none => .ok defaults.application
  | some raw => (Name.parse .application raw).mapError .application

def readPlurals (environment : Environment) : Except SettingsError Bool :=
  match environment pluralsVariable with
  | none => .ok defaults.matchesPlurals
  | some raw =>
    match ofSwitch? raw with
    | some value => .ok value
    | none => .error (.plurals raw)

/-- The settings that an environment makes, the defaults standing in for unset
variables. -/
def ofEnvironment (environment : Environment) : Except SettingsError Settings := do
  let application ← readApplication environment
  let matchesPlurals ← readPlurals environment
  return ⟨application, matchesPlurals⟩

/-- The context of a session on the configured application. -/
def context (settings : Settings) (session : Session) : Context :=
  ⟨session, settings.application, .application⟩

end Settings

def SettingsError.message : SettingsError → String
  | .application cause =>
    "invalid configuration: " ++ Settings.applicationVariable ++ ": " ++ cause.message
  | .plurals raw =>
    "invalid configuration: " ++ Settings.pluralsVariable ++
      ": expected true/false, got '" ++ raw ++ "'"

end WikiAccess
