import WikiAccess.Evaluation.Basic
import WikiAccess.Log.Level
import WikiAccess.Session.Id

/-!
# Log events

An event says what happened in terms of the domain.  How it appears in a log, as
a level and named fields with or without a message, follows from it.  One
constructor, `evaluation`, is a span: it marks the beginning of an activity and
has a name instead of a message.
-/

namespace WikiAccess
namespace Log

/-- Something that is written to the log. -/
inductive Event where
  /-- A revision was saved. -/
  | saved (page : Page)
  /-- A page was found under the singular or plural of the requested name. -/
  | variantFound (requested : String) (found : PageName)
  | staleEdit (edit : StaleEdit)
  /-- A policy granted a permission to a principal. -/
  | granted (permission : Permission) (principal : String)
  | atomEvaluated (outcome : Outcome)
  | atomFailed (atom : Atom) (error : EvaluationError)
  | emptyExpression
  | invalidExpression (raw : String) (error : ExpressionError)
  | decided (decision : Decision)
  /-- The evaluation of an expression began. -/
  | evaluation (expression : Expression) (session : SessionId)
  deriving DecidableEq, Repr

inductive Field where
  | text (value : String)
  | flag (value : Bool)
  deriving DecidableEq, Repr

namespace Event

def level : Event → Level
  | .granted _ _ => .trace
  | .atomFailed _ _ => .warn
  | .emptyExpression => .warn
  | .invalidExpression _ _ => .warn
  | _ => .debug

def span? : Event → Option String
  | .evaluation _ _ => some "evaluate"
  | _ => none

def message? : Event → Option String
  | .saved _ => some "stored page revision"
  | .variantFound _ _ => some "resolved page via plural fallback"
  | .staleEdit _ => some "edit denied on stale page revision"
  | .granted _ _ => some "permission granted"
  | .atomEvaluated _ => some "evaluated permission atom"
  | .atomFailed _ _ => some "permission evaluation failed"
  | .emptyExpression => some "refusing to evaluate empty permission expression"
  | .invalidExpression _ _ => some "invalid permission expression"
  | .decided _ => some "permission expression evaluated"
  | .evaluation _ _ => none

/-- How a log shows the newest version of a page that may not exist. -/
def displayNewest : Option PageVersion → String
  | some version => "Some(PageVersion(" ++ toString version.ordinal ++ "))"
  | none => "None"

/-- The fields of an event besides its message. -/
def fields : Event → List (String × Field)
  | .saved page => [("page", .text page.name.text), ("version", .text page.version.display)]
  | .variantFound requested found =>
    [("requested", .text requested), ("resolved", .text found.text)]
  | .staleEdit edit =>
    [("page", .text edit.page.text), ("requested", .text edit.requested.display),
      ("latest", .text (displayNewest edit.newest))]
  | .granted permission principal =>
    [("permission", .text permission.display), ("principal", .text principal)]
  | .atomEvaluated outcome =>
    [("atom", .text outcome.atom.display), ("raw", .flag outcome.raw),
      ("effective", .flag outcome.effective)]
  | .atomFailed atom error =>
    [("atom", .text atom.display), ("error", .text error.message)]
  | .emptyExpression => []
  | .invalidExpression raw error =>
    [("expression", .text raw), ("error", .text error.message)]
  | .decided decision => [("decision", .text decision.display)]
  | .evaluation expression session =>
    [("expression", .text expression.display), ("session", .text session.display)]

end Event
end Log
end WikiAccess
