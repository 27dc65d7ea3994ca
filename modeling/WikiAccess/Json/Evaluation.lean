import WikiAccess.Evaluation.Basic
import WikiAccess.Json.Page
import WikiAccess.Json.Permission

/-!
# Evaluations in JSON

Expressions, outcomes and traces are written, never read.  An outcome shows the
permission that was asked about or the refusal, the other of the two being null.
-/

namespace WikiAccess

def Atom.toJson (atom : Atom) : Json :=
  .obj [("name", .str atom.name), ("negated", .bool atom.negated)]

def Expression.toJson (expression : Expression) : Json :=
  .arr (expression.atoms.map Atom.toJson)

def Requirement.toJson (required : Requirement) : Json := .str required.display

def Decision.toJson (decision : Decision) : Json := .str decision.display

/-- A refusal names its kind. -/
def StaleEdit.toJson (edit : StaleEdit) : Json :=
  .obj [("kind", .str "stale_version"), ("page", edit.page.toJson),
    ("requested", edit.requested.toJson),
    ("latest", (edit.newest.map PageVersion.toJson).getD .null)]

def Outcome.toJson (outcome : Outcome) : Json :=
  .obj [("atom", outcome.atom.toJson),
    ("permission", (outcome.permission?.map Permission.toJson).getD .null),
    ("denied_by", (outcome.staleEdit?.map StaleEdit.toJson).getD .null),
    ("raw", .bool outcome.raw), ("effective", .bool outcome.effective)]

def Trace.toJson (trace : Trace) : Json :=
  .obj [("expression", .str trace.expression.display),
    ("decision", trace.decision.toJson),
    ("atoms", .arr (trace.outcomes.map Outcome.toJson))]

end WikiAccess
