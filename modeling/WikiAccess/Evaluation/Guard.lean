import WikiAccess.Evaluation.Evaluator

/-!
# Guarded sections

A guard stands before a section of a page.  Its expression is read once, when the
page is, and evaluated each time the page is shown.
-/

namespace WikiAccess

/-- What becomes of a guarded section. -/
inductive Visibility where
  | included
  | skipped
  deriving DecidableEq, Repr

/-- An expression that guards a section. -/
@[ext]
structure Guard where
  expression : Expression
  deriving DecidableEq, Repr

namespace Guard

def parse (raw : String) : Except ExpressionError Guard :=
  (Expression.parse raw).map Guard.mk

/-- Show the section to whoever the expression allows. -/
def render (guard : Guard) (evaluator : Evaluator) (context : Context) :
    Run EvaluationError Visibility := do
  match ← evaluator.evaluate context guard.expression with
  | .allow => return .included
  | .deny => return .skipped

end Guard
end WikiAccess
