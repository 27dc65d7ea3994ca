/-!
# Permission expressions

A permission expression lists permission names, some of them negated, and is
allowed as soon as one of them holds: `edit|rename|!upload`.  Names are separated
by `|` and a leading `!` negates.  There is no quoting, no escape and no trimming,
and an empty token is skipped.

Reading an expression refuses a token that is nothing but `!` and a text without
tokens.  An expression may also be built from atoms directly, which refuses
nothing: such an expression may be empty, and its text need not read back.
-/

namespace WikiAccess

/-- A permission name, possibly negated. -/
@[ext]
structure Atom where
  name : String
  negated : Bool
  deriving DecidableEq, Repr

/-- Why a text is not a permission expression. -/
inductive ExpressionError where
  | empty
  | malformedAtom (token : String)
  deriving DecidableEq, Repr

def ExpressionError.message : ExpressionError → String
  | .empty => "permission expression is empty"
  | .malformedAtom token => "malformed permission atom '" ++ token ++ "'"

namespace Atom

/-- The atom that a token writes: one leading `!` negates, and the rest is the
name verbatim. -/
def ofToken (token : List Char) : Except ExpressionError Atom :=
  match token with
  | [] => .error (.malformedAtom "")
  | ['!'] => .error (.malformedAtom "!")
  | '!' :: name => .ok ⟨String.ofList name, true⟩
  | name => .ok ⟨String.ofList name, false⟩

def parse (token : String) : Except ExpressionError Atom := ofToken token.toList

def token (atom : Atom) : List Char :=
  if atom.negated then '!' :: atom.name.toList else atom.name.toList

def display (atom : Atom) : String := String.ofList atom.token

/-- What a check of the name comes to once the negation is applied. -/
def effective (atom : Atom) (raw : Bool) : Bool := raw != atom.negated

/-- Reading a token loses nothing. -/
theorem token_of_ofToken {cs : List Char} {atom : Atom} (h : ofToken cs = .ok atom) :
    atom.token = cs := by
  unfold ofToken at h
  split at h <;> simp at h <;> subst h <;> simp [token]

end Atom

/-- Atoms in order. -/
@[ext]
structure Expression where
  atoms : List Atom
  deriving DecidableEq, Repr

namespace Expression

/-- The tokens of a text: its maximal runs without a separator that are not
empty. -/
def tokens (cs : List Char) : List (List Char) :=
  (cs.splitOn '|').filter (· ≠ [])

/-- The expression that a text writes.  A malformed token is the fault even when
other tokens are fine. -/
def parse (raw : String) : Except ExpressionError Expression := do
  let atoms ← (tokens raw.toList).mapM Atom.ofToken
  if atoms.isEmpty then .error .empty else .ok ⟨atoms⟩

/-- The atoms of an expression with a separator between neighbours. -/
def display (expression : Expression) : String :=
  String.ofList (['|'].intercalate (expression.atoms.map Atom.token))

end Expression
end WikiAccess
