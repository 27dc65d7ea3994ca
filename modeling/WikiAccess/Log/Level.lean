/-!
# Severity levels

The five levels of log events, from the most to the least severe.
-/

namespace WikiAccess
namespace Log

inductive Level where
  | error
  | warn
  | info
  | debug
  | trace
  deriving DecidableEq, Repr

namespace Level

def all : List Level := [.error, .warn, .info, .debug, .trace]

def name : Level → String
  | .error => "error"
  | .warn => "warn"
  | .info => "info"
  | .debug => "debug"
  | .trace => "trace"

def display (level : Level) : String := String.ofList (level.name.toList.map Char.toUpper)

end Level
end Log
end WikiAccess
