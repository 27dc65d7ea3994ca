import WikiAccess.Log.Level
import WikiAccess.Text

/-!
# Thresholds

A threshold says which events pass: none, or those up to a level.  It is written
by its name in any letter case or by its rank in decimal, where `off` and zero
stand for silence.
-/

namespace WikiAccess
namespace Log

/-- What is let through: nothing, or events up to a level. -/
abbrev Threshold := Option Level

namespace Threshold

/-- Everything passes. -/
def everything : Threshold := some .trace

/-- A rank in decimal.  A plus sign may stand in front, and so may zeros. -/
def rank? (cs : List Char) : Option Nat :=
  let digits := match cs with
    | '+' :: rest => rest
    | _ => cs
  if digits.isEmpty || !digits.all Char.isDigit then none
  else some (Text.decimalValue digits)

/-- The threshold of a rank: nothing at zero, then one more level at each step. -/
def ofRank? : Nat → Option Threshold
  | 0 => some none
  | rank + 1 => Level.all[rank]?.map some

/-- The threshold of a name in any letter case. -/
def ofName? (cs : List Char) : Option Threshold :=
  match String.ofList (cs.map Char.toLower) with
  | "off" => some none
  | "error" => some (some .error)
  | "warn" => some (some .warn)
  | "info" => some (some .info)
  | "debug" => some (some .debug)
  | "trace" => some (some .trace)
  | _ => none

/-- The threshold that a text writes, by rank or by name. -/
def ofChars? (cs : List Char) : Option Threshold :=
  match rank? cs with
  | some rank => ofRank? rank
  | none => ofName? cs

end Threshold
end Log
end WikiAccess
