import WikiAccess.Evaluation.Resolve
import WikiAccess.Oracle

/-!
# Evaluating expressions

An evaluator looks at the atoms of an expression in order and stops at the first
that is effective, which allows the expression.  When none is, the expression is
denied.  An atom that cannot be resolved ends the evaluation with an error, and
what was seen until then decides nothing.

`scan` is this loop on its own.  It is stated for any way of looking at any kind
of item, so that it also covers an evaluation during which the store changes from
one atom to the next: the items are then atoms paired with the store of the
moment.
-/

namespace WikiAccess

/-- Look at items in order up to the first effective outcome. -/
def scan {α : Type} (look : α → Run EvaluationError Outcome) :
    List α → Run EvaluationError (List Outcome × Decision)
  | [] => return ([], .deny)
  | item :: rest => do
    let outcome ← look item
    if outcome.effective then
      return ([outcome], .allow)
    else
      let (outcomes, decision) ← scan look rest
      return (outcome :: outcomes, decision)

structure Evaluator where
  oracle : Oracle
  store : PageStore

namespace Evaluator

/-- What resolving a name and asking about it finds. -/
def find (evaluator : Evaluator) (context : Context) (name : String) :
    Run EvaluationError Finding := do
  match ← context.resolve evaluator.store name with
  | .check permission =>
    return .answered permission (← evaluator.oracle.ask context.session permission)
  | .stale edit => return .stale edit

/-- The outcome of one atom. -/
def judge (evaluator : Evaluator) (context : Context) (atom : Atom) :
    Run EvaluationError Outcome := do
  let outcome : Outcome := ⟨atom, ← evaluator.find context atom.name⟩
  Run.note (.atomEvaluated outcome)
  return outcome

/-- The outcome of one atom of an expression, whose failure goes to the log. -/
def look (evaluator : Evaluator) (context : Context) (atom : Atom) :
    Run EvaluationError Outcome :=
  (evaluator.judge context atom).noteError (.atomFailed atom)

/-- The outcomes and the decision of an expression.  An expression without atoms
is an error. -/
def examine (evaluator : Evaluator) (context : Context) (expression : Expression) :
    Run EvaluationError (List Outcome × Decision) := do
  if expression.atoms.isEmpty then
    Run.note .emptyExpression
    Run.fail (.expression .empty)
  else
    let (outcomes, decision) ← scan (evaluator.look context) expression.atoms
    Run.note (.decided decision)
    return (outcomes, decision)

/-- The decision on an expression, in a span of the log. -/
def evaluate (evaluator : Evaluator) (context : Context) (expression : Expression) :
    Run EvaluationError Decision := do
  Run.note (.evaluation expression context.session.id)
  return (← evaluator.examine context expression).2

/-- The decision on an expression, explained. -/
def trace (evaluator : Evaluator) (context : Context) (expression : Expression) :
    Run EvaluationError Trace := do
  let (outcomes, decision) ← evaluator.examine context expression
  return ⟨expression, decision, outcomes⟩

/-- The decision on the expression that a text writes. -/
def evaluateText (evaluator : Evaluator) (context : Context) (raw : String) :
    Run EvaluationError Decision := do
  let expression ←
    ((Run.ofExcept (Expression.parse raw)).noteError (.invalidExpression raw)).mapError
      .expression
  evaluator.evaluate context expression

end Evaluator
end WikiAccess
