/-!
# Environment variables

Settings come from named variables.  The value of a variable is a sequence of
bytes, and one that is not UTF-8 counts as unset.
-/

namespace WikiAccess

/-- For each variable its value, `none` when it is unset. -/
abbrev Environment := String → Option String

inductive VariableValue where
  | text (value : String)
  | bytes (value : List UInt8)
  deriving DecidableEq, Repr

def VariableValue.text? : VariableValue → Option String
  | .text value => some value
  | .bytes value => String.fromUTF8? ⟨value.toArray⟩

def Environment.ofList (bindings : List (String × VariableValue)) : Environment :=
  fun name => (bindings.lookup name).bind VariableValue.text?

end WikiAccess
