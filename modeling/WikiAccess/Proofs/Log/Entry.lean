import WikiAccess.Log.Event
import WikiAccess.Proofs.Evaluation.Messages

/-!
# Entries of the log

An entry is what a reader of the log has of an event: a level, a message or the name of a
span, and named texts and flags.  Here are the entries that an evaluation writes, word for
word, and what can be read back from them: which atom was judged and how
(`judged?_judged`), and what the evaluation came to (`result_eq_of_closing_eq`).
-/

namespace WikiAccess
namespace Log

@[ext]
structure Entry where
  span? : Option String
  level : Level
  message? : Option String
  fields : List (String × Field)
  deriving DecidableEq, Repr

def Event.entry (event : Event) : Entry :=
  ⟨event.span?, event.level, event.message?, event.fields⟩

namespace Entry

def span (level : Level) (name : String) (fields : List (String × Field)) : Entry :=
  ⟨some name, level, none, fields⟩

def message (level : Level) (text : String) (fields : List (String × Field)) : Entry :=
  ⟨none, level, some text, fields⟩

/-! ## The entries of an evaluation -/

def opening (expression : Expression) (session : SessionId) : Entry :=
  .span .debug "evaluate"
    [("expression", .text expression.display), ("session", .text session.display)]

def staleEdit (edit : StaleEdit) : Entry :=
  .message .debug "edit denied on stale page revision"
    [("page", .text edit.page.text), ("requested", .text edit.requested.display),
      ("latest", .text (Event.displayNewest edit.newest))]

def granted (permission : Permission) (principal : String) : Entry :=
  .message .trace "permission granted"
    [("permission", .text permission.display), ("principal", .text principal)]

/-- An atom that did not fail, with the answer before and after negation. -/
def judged (atom : Atom) (raw : Bool) : Entry :=
  .message .debug "evaluated permission atom"
    [("atom", .text atom.display), ("raw", .flag raw), ("effective", .flag (raw != atom.negated))]

def decided (decision : Decision) : Entry :=
  .message .debug "permission expression evaluated" [("decision", .text decision.display)]

def failed (atom : Atom) (error : EvaluationError) : Entry :=
  .message .warn "permission evaluation failed"
    [("atom", .text atom.display), ("error", .text error.message)]

def emptyExpression : Entry :=
  .message .warn "refusing to evaluate empty permission expression" []

def unreadable (raw : String) (error : ExpressionError) : Entry :=
  .message .warn "invalid permission expression"
    [("expression", .text raw), ("error", .text error.message)]

/-- The last entry of an evaluation, by the last atom that was looked at, if there was one,
and by what the evaluation came to. -/
def closing (last? : Option Atom) : Except EvaluationError Decision → Entry
  | .ok decision => decided decision
  | .error error =>
    match last? with
    | some atom => failed atom error
    | none => emptyExpression

/-- Whether an entry says what an evaluation came to. -/
def isClosing (entry : Entry) : Bool :=
  entry.message? == some "permission expression evaluated" ||
    entry.message? == some "permission evaluation failed" ||
    entry.message? == some "refusing to evaluate empty permission expression"

theorem isClosing_closing (last? : Option Atom) (result : Except EvaluationError Decision) :
    (closing last? result).isClosing = true := by
  cases result with
  | ok decision => rfl
  | error error => cases last? <;> rfl

/-! ## Reading entries back -/

/-- The atom that an entry says was judged, and the answer before negation.  The atom was
negated when the answers before and after differ, and then its text has a `!` in front. -/
def judged? (entry : Entry) : Option (Atom × Bool) :=
  match entry.message?, entry.fields with
  | some "evaluated permission atom", [(_, .text token), (_, .flag raw), (_, .flag effective)] =>
    if raw = effective then some (⟨token, false⟩, raw)
    else some (⟨String.ofList token.toList.tail, true⟩, raw)
  | _, _ => none

theorem judged?_judged (atom : Atom) (raw : Bool) :
    (judged atom raw).judged? = some (atom, raw) := by
  obtain ⟨name, negated⟩ := atom
  cases negated with
  | false => simp [judged?, judged, message, Atom.display, Atom.token]
  | true => simp [judged?, judged, message, Atom.display, Atom.token]

theorem judged?_closing (last? : Option Atom) (result : Except EvaluationError Decision) :
    (closing last? result).judged? = none := by
  cases result with
  | ok decision => rfl
  | error error => cases last? <;> rfl

theorem decided_inj {decision other : Decision} (h : decided decision = decided other) :
    decision = other := by
  cases decision <;> cases other <;> simp [decided, message, Decision.display] at h ⊢

theorem failed_inj {atom atom' : Atom} {error other : EvaluationError}
    (h : failed atom error = failed atom' other) : error = other := by
  simp only [failed, message, mk.injEq, List.cons.injEq, Prod.mk.injEq, Field.text.injEq,
    true_and, and_true] at h
  exact EvaluationError.message_inj h.2

theorem unreadable_inj {raw raw' : String} {error other : ExpressionError}
    (h : unreadable raw error = unreadable raw' other) : error = other := by
  simp only [unreadable, message, mk.injEq, List.cons.injEq, Prod.mk.injEq, Field.text.injEq,
    true_and, and_true] at h
  exact EvaluationError.expression.inj (EvaluationError.message_inj h.2)

/-- The last entry tells what an evaluation came to, given that one which looked at nothing
came to the error of an expression without atoms. -/
theorem result_eq_of_closing_eq {last? other? : Option Atom}
    {result other : Except EvaluationError Decision}
    (h : closing last? result = closing other? other)
    (hresult : last? = none → result = .error (.expression .empty))
    (hother : other? = none → other = .error (.expression .empty)) : result = other := by
  cases last? with
  | none =>
    rw [hresult rfl] at h ⊢
    cases other? with
    | none => exact (hother rfl).symm
    | some atom => cases other <;> simp [closing, decided, failed, emptyExpression, message] at h
  | some atom =>
    cases other? with
    | none =>
      rw [hother rfl] at h
      cases result <;> simp [closing, decided, failed, emptyExpression, message] at h
    | some atom' =>
      cases result with
      | ok decision =>
        cases other with
        | ok decision' => rw [decided_inj h]
        | error error' => simp [closing, decided, failed, message] at h
      | error error =>
        cases other with
        | ok decision' => simp [closing, decided, failed, message] at h
        | error error' => rw [failed_inj h]

end Entry
end Log
end WikiAccess
