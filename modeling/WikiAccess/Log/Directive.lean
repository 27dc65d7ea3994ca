import WikiAccess.Log.Pattern
import WikiAccess.Log.Threshold
import WikiAccess.Text.Cut

/-!
# Directives of a log filter

A directive is a level, which then concerns everything, or it names what it
concerns and then, after `=`, the level: `wiki::access=debug`.  What it concerns
is a target, or a span, or a span within a target, where the span is written in
brackets and may narrow down to one field: `wiki[request{user=ann}]=debug`.
A bare word that is no level is a target, and a directive without a level lets
everything through.

Blanks around a directive do not count when its parts are found, but its parts
are cut out of the text with the blanks, at the positions found without them.  So
a level is refused when blanks stand before the directive or after it, while
blanks do no harm to a directive without a level.
-/

namespace WikiAccess
namespace Log

/-! ## Fields -/

/-- A field by name, with the value that it must have, if any. -/
structure FieldFilter where
  name : String
  value : Option String
  deriving DecidableEq, Repr

namespace FieldFilter

/-- An exponent of ten, or nothing. -/
def isExponent : List Char → Bool
  | [] => true
  | mark :: rest =>
    let digits := match rest with
      | '+' :: digits => digits
      | '-' :: digits => digits
      | _ => rest
    (mark == 'e' || mark == 'E') && !digits.isEmpty && digits.all Char.isDigit

/-- A number without a sign: decimal digits, of which a point may stand before,
between or behind, and an exponent, or one of the words for no finite number. -/
def isNumber (cs : List Char) : Bool :=
  let whole := cs.takeWhile Char.isDigit
  let (fraction, rest) := match cs.dropWhile Char.isDigit with
    | '.' :: rest => (rest.takeWhile Char.isDigit, rest.dropWhile Char.isDigit)
    | rest => ([], rest)
  (!(whole ++ fraction).isEmpty && isExponent rest) ||
    ["inf", "infinity", "nan"].contains (String.ofList (cs.map Char.toLower))

/-- A value is a pattern.  A number with a plus sign in front is none, for want of
something to repeat, and is a value all the same. -/
def isValue (cs : List Char) : Bool :=
  Pattern.isWellFormed cs ||
    match cs with
    | '+' :: rest => isNumber rest
    | _ => false

/-- The filter that `name` or `name=value` writes.  A second `=` ends the value,
and what follows it is ignored. -/
def ofChars? (cs : List Char) : Option FieldFilter :=
  match cs.splitOn '=' with
  | name :: value :: _ =>
    if isValue value then some ⟨String.ofList name, some (String.ofList value)⟩ else none
  | _ => if cs.isEmpty then none else some ⟨String.ofList cs, none⟩

end FieldFilter

/-! ## Directives -/

/-- A threshold for what the other parts narrow down to. -/
structure Directive where
  target : Option String
  span : Option String
  field : Option FieldFilter
  threshold : Threshold
  deriving DecidableEq, Repr

namespace Directive

/-- A target starts with a letter or a number in any script, the underscore, the
hyphen or the colon. -/
def isTargetStart (c : Char) : Bool :=
  c == '_' || c == '-' || c == ':' || Text.isAlphanumeric c

/-- The end of `written` that starts where `suffix` starts in the text without
blanks. -/
def cutFrom? (written suffix : List Char) : Option (List Char) :=
  Text.dropBytes? written (Text.byteSize (Text.trim written) - Text.byteSize suffix)

/-- The part of `written` from where `suffix` starts to where its suffix `after`
starts. -/
def cut? (written suffix after : List Char) : Option (List Char) := do
  Text.takeBytes? (← cutFrom? written suffix) (Text.byteSize suffix - Text.byteSize after)

/-- The directive whose level starts at `level`. -/
def withLevel? (written level : List Char) (directive : Directive) : Option Directive := do
  match ← cutFrom? written level with
  | [] => return directive
  | cut => return { directive with threshold := ← Threshold.ofChars? cut }

/-- The directive at whose end `rest` stands: nothing, or `=` and a level. -/
def close? (written rest : List Char) (directive : Directive) : Option Directive :=
  match rest with
  | [] => some directive
  | '=' :: level => withLevel? written level directive
  | _ => none

/-- The directive whose span starts at `scope`, after the opening bracket. -/
def withSpan? (written scope : List Char) (directive : Directive) : Option Directive := do
  let rest := scope.dropWhile fun c => c != ']' && c != '\x7b'
  let span := String.ofList (← cut? written scope rest)
  match rest with
  | ']' :: rest => close? written rest { directive with span := some span }
  | '\x7b' :: inner =>
    let rest := inner.dropWhile (· != '\x7d')
    let field ← FieldFilter.ofChars? (← cut? written inner rest)
    match rest with
    | '\x7d' :: ']' :: rest =>
      let span := if span.isEmpty then none else some span
      close? written rest { directive with span := span, field := some field }
    | _ => none
  | _ => none

def ofChars? (written : List Char) : Option Directive :=
  match Text.trim written with
  | [] => none
  | '[' :: scope => withSpan? written scope ⟨none, none, none, .everything⟩
  | first :: others => do
    if !isTargetStart first then none
    let text := first :: others
    match text.dropWhile fun c => c != '=' && c != '[' with
    | [] =>
      match Threshold.ofChars? written with
      | some threshold => return ⟨none, none, none, threshold⟩
      | none => return ⟨some (String.ofList written), none, none, .everything⟩
    | mark :: rest =>
      let target ← cut? written text (mark :: rest)
      let directive : Directive := ⟨some (String.ofList target), none, none, .everything⟩
      if mark == '[' then withSpan? written rest directive
      else withLevel? written rest directive

end Directive
end Log
end WikiAccess
