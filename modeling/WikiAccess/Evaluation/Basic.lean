import WikiAccess.Expression
import WikiAccess.Permission.Kind
import WikiAccess.Store.Basic

/-!
# What an evaluation comes to

An expression is allowed or denied, or its evaluation fails.  On the way each
atom is resolved to a permission that can be checked, or to a refusal that needs
no check, and has an outcome.  The outcomes in order are the trace that explains
the decision.
-/

namespace WikiAccess

inductive Decision where
  | allow
  | deny
  deriving DecidableEq, Repr

namespace Decision

def ofBool : Bool → Decision
  | true => .allow
  | false => .deny

def isAllowed : Decision → Bool
  | .allow => true
  | .deny => false

def display : Decision → String
  | .allow => "allow"
  | .deny => "deny"

end Decision

/-- Why an expression could not be evaluated.  Being denied is not an error. -/
inductive EvaluationError where
  | expression (cause : ExpressionError)
  /-- A name needs a resource that is not at hand. -/
  | missingResource (permission : String) (required : Requirement)
  | store (cause : StoreError)
  deriving DecidableEq, Repr

namespace EvaluationError

def message : EvaluationError → String
  | .expression cause => cause.message
  | .missingResource permission required =>
    "permission '" ++ permission ++ "' requires a " ++ required.display ++
      " in the resource context"
  | .store cause => "page store failure: " ++ cause.message

/-- Whether the fault lies in how things were set up, and not in the store. -/
def isConfiguration : EvaluationError → Bool
  | .store _ => false
  | _ => true

end EvaluationError

/-- A revision was to be edited that is not the newest one.  `newest` is `none`
when the page no longer exists. -/
structure StaleEdit where
  page : PageName
  requested : PageVersion
  newest : Option PageVersion
  deriving DecidableEq, Repr

/-- What a permission name comes to in a context. -/
inductive Resolution where
  /-- Whoever decides is to be asked about this permission. -/
  | check (permission : Permission)
  /-- Refused without asking. -/
  | stale (edit : StaleEdit)
  deriving DecidableEq, Repr

/-- A resolution together with the answer, where one was asked for. -/
inductive Finding where
  | answered (permission : Permission) (answer : Bool)
  | stale (edit : StaleEdit)
  deriving DecidableEq, Repr

/-- What happened to one atom. -/
@[ext]
structure Outcome where
  atom : Atom
  finding : Finding
  deriving DecidableEq, Repr

namespace Outcome

/-- The permission that was asked about. -/
def permission? (outcome : Outcome) : Option Permission :=
  match outcome.finding with
  | .answered permission _ => some permission
  | .stale _ => none

/-- The refusal that made asking unnecessary. -/
def staleEdit? (outcome : Outcome) : Option StaleEdit :=
  match outcome.finding with
  | .answered _ _ => none
  | .stale edit => some edit

/-- The result of the check before negation.  A stale edit is refused. -/
def raw (outcome : Outcome) : Bool :=
  match outcome.finding with
  | .answered _ answer => answer
  | .stale _ => false

/-- The result of the check after negation, so that a negated stale edit is
effective. -/
def effective (outcome : Outcome) : Bool := outcome.atom.effective outcome.raw

end Outcome

/-- The explanation of a decision: the outcomes of the atoms that were looked at,
in order. -/
@[ext]
structure Trace where
  expression : Expression
  decision : Decision
  outcomes : List Outcome
  deriving DecidableEq, Repr

end WikiAccess
