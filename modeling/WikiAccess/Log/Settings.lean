import WikiAccess.Environment
import WikiAccess.Log.Filter
import WikiAccess.Text

/-!
# Settings of the log

Two variables govern the log.  The filter is kept verbatim and not interpreted
until the log is installed.  The format is read without regard to padding and
letter case, and an error quotes what is left after that.  A process has at most
one log.
-/

namespace WikiAccess
namespace Log

/-- How events are written. -/
inductive Format where
  | json
  | pretty
  deriving DecidableEq, Repr

/-- A format name that is not known, without its padding and in lower case. -/
structure FormatError where
  name : String
  deriving DecidableEq, Repr

def FormatError.message (error : FormatError) : String :=
  "unknown log format '" ++ error.name ++ "' (expected json or pretty)"

namespace Format

def display : Format → String
  | .json => "json"
  | .pretty => "pretty"

/-- The format that a text names. -/
def parse (raw : String) : Except FormatError Format :=
  match Text.normalized raw with
  | "json" => .ok .json
  | "pretty" | "text" => .ok .pretty
  | other => .error ⟨other⟩

end Format

structure Settings where
  filter : String
  format : Format
  deriving DecidableEq, Repr

/-- The one fault of the variables: the format is not known. -/
structure SettingsError where
  cause : FormatError
  deriving DecidableEq, Repr

/-- Why a log could not be installed. -/
inductive InstallError where
  | invalidFilter (filter : String)
  | alreadyInstalled
  deriving DecidableEq, Repr

namespace Settings

def filterVariable : String := "RUST_LOG"
def formatVariable : String := "WIKI_LOG_FORMAT"

/-- The settings when no variable is set. -/
def defaults : Settings := ⟨"info", .json⟩

/-- The settings that an environment makes, the defaults standing in for unset
variables. -/
def ofEnvironment (environment : Environment) : Except SettingsError Settings :=
  let filter := (environment filterVariable).getD defaults.filter
  match environment formatVariable with
  | none => .ok ⟨filter, defaults.format⟩
  | some raw =>
    match Format.parse raw with
    | .ok format => .ok ⟨filter, format⟩
    | .error cause => .error ⟨cause⟩

/-- Install a log in a process that has the log `installed`, if any.  The filter
is looked at first. -/
def install (settings : Settings) (installed : Option Settings) :
    Except InstallError Settings :=
  match parseFilter? settings.filter, installed with
  | none, _ => .error (.invalidFilter settings.filter)
  | some _, some _ => .error .alreadyInstalled
  | some _, none => .ok settings

end Settings

namespace SettingsError

/-- What was being done when the fault was found. -/
def summary (_ : SettingsError) : String := "reading " ++ Settings.formatVariable

/-- The summary and the cause. -/
def message (error : SettingsError) : String :=
  error.summary ++ ": " ++ error.cause.message

end SettingsError

def InstallError.message : InstallError → String
  | .invalidFilter filter => "invalid log filter '" ++ filter ++ "'"
  | .alreadyInstalled =>
    "tracing subscriber already installed: " ++
      "a global default trace dispatcher has already been set"

end Log
end WikiAccess
