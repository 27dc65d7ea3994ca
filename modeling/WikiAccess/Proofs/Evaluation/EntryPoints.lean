import WikiAccess.Evaluation.Guard
import WikiAccess.Proofs.Evaluation.Examination
import WikiAccess.Proofs.Expression.Tokens

/-!
# Ways to put a text to an evaluator

A text can be evaluated as it is, it can be read first and then evaluated or traced,
and it can be made the guard of a section that is rendered.  `entry_points_agree` says
that all of these are one: they come to the same decision or error, by the same
questions and reads in the same order, and none does anything for a text that cannot be
read.
-/

namespace WikiAccess

/-- The decision that a guarded section shows. -/
def Visibility.decision : Visibility → Decision
  | .included => .allow
  | .skipped => .deny

/-- A run does as an evaluation.  It fails with the same error, or comes to something
that shows the same decision, and it asks and reads the same in the same order. -/
structure SameVerdict {α : Type} (decision : α → Decision) (run : Run EvaluationError α)
    (evaluation : Run EvaluationError Decision) : Prop where
  result : run.result.map decision = evaluation.result
  calls : run.calls = evaluation.calls

theorem Guard.map_expression_parse (raw : String) :
    (Guard.parse raw).map Guard.expression = Expression.parse raw := by
  unfold Guard.parse
  cases Expression.parse raw <;> rfl

namespace Evaluator

/-- Go on with what was read, if anything could be. -/
def afterReading {α β : Type} (read : Except ExpressionError α)
    (next : α → Run EvaluationError β) : Run EvaluationError β := do
  next (← Run.ofExcept (read.mapError .expression))

theorem afterReading_error {α β : Type} (cause : ExpressionError)
    (next : α → Run EvaluationError β) :
    afterReading (.error cause) next = ⟨[], .error (.expression cause)⟩ := rfl

theorem afterReading_ok {α β : Type} (value : α) (next : α → Run EvaluationError β) :
    afterReading (.ok value) next = next value := rfl

variable (evaluator : Evaluator) (context : Context)

/-- Read a text, and evaluate its expression. -/
def evaluateRead (raw : String) : Run EvaluationError Decision :=
  afterReading (Expression.parse raw) (evaluator.evaluate context)

/-- Read a text, and trace its expression. -/
def traceRead (raw : String) : Run EvaluationError Trace :=
  afterReading (Expression.parse raw) (evaluator.trace context)

/-- Read a text as a guard, and render it. -/
def renderRead (raw : String) : Run EvaluationError Visibility :=
  afterReading (Guard.parse raw) fun guard => guard.render evaluator context

/-! ## What there is to agree with -/

theorem evaluateText_of_error {raw : String} {cause : ExpressionError}
    (h : Expression.parse raw = .error cause) :
    evaluator.evaluateText context raw =
      ⟨[.logged (.invalidExpression raw cause)], .error (.expression cause)⟩ := by
  unfold evaluateText
  rw [h]
  rfl

theorem evaluateText_of_ok {raw : String} {expression : Expression}
    (h : Expression.parse raw = .ok expression) :
    evaluator.evaluateText context raw = evaluator.evaluate context expression := by
  unfold evaluateText
  rw [h]
  rfl

/-- Whatever is read from a text does as evaluating the text, if it does as evaluating
the expression in it. -/
theorem sameVerdict_afterReading {α β : Type} {raw : String} {read : Except ExpressionError α}
    {expression : α → Expression} {next : α → Run EvaluationError β} {decision : β → Decision}
    (hread : read.map expression = Expression.parse raw)
    (hnext : ∀ value,
      SameVerdict decision (next value) (evaluator.evaluate context (expression value))) :
    SameVerdict decision (afterReading read next) (evaluator.evaluateText context raw) := by
  cases read with
  | error cause =>
    rw [afterReading_error, evaluateText_of_error evaluator context hread.symm]
    exact ⟨rfl, rfl⟩
  | ok value =>
    rw [afterReading_ok, evaluateText_of_ok evaluator context hread.symm]
    exact hnext value

/-! ## The ways of going on -/

theorem sameVerdict_evaluate (expression : Expression) :
    SameVerdict id (evaluator.evaluate context expression)
      (evaluator.evaluate context expression) := by
  refine ⟨?_, rfl⟩
  cases (evaluator.evaluate context expression).result <;> rfl

theorem sameVerdict_trace (expression : Expression) :
    SameVerdict Trace.decision (evaluator.trace context expression)
      (evaluator.evaluate context expression) := by
  constructor
  · rw [result_trace, result_evaluate]
    cases (evaluator.examine context expression).result <;> rfl
  · exact (view_trace evaluator context Run.blindToLog_call? expression).trans
      (view_evaluate evaluator context Run.blindToLog_call? expression).symm

theorem sameVerdict_render (guard : Guard) :
    SameVerdict Visibility.decision (guard.render evaluator context)
      (evaluator.evaluate context guard.expression) := by
  unfold Guard.render
  constructor
  · cases h : (evaluator.evaluate context guard.expression).result with
    | error error =>
      rw [Run.bind_of_error h]
      rfl
    | ok decision =>
      rw [Run.bind_of_ok h]
      cases decision <;> rfl
  · refine Run.view_bind_of_silent _ fun decision => ?_
    cases decision <;> rfl

theorem traceRead_display {raw : String} {trace : Trace}
    (h : (evaluator.traceRead context raw).result = .ok trace) :
    evaluator.traceRead context trace.expression.display = evaluator.traceRead context raw := by
  unfold traceRead at h ⊢
  cases hparse : Expression.parse raw with
  | error cause =>
    rw [hparse, afterReading_error] at h
    cases h
  | ok expression =>
    rw [hparse, afterReading_ok] at h
    rw [(examine_of_trace evaluator context h).1, Expression.parse_display_of_parse hparse]

theorem sameVerdict_renders {raw : String} {guard : Guard} (h : Guard.parse raw = .ok guard)
    (visits : List (Evaluator × Context)) :
    List.Forall₂ (SameVerdict Visibility.decision)
      (visits.map fun visit => guard.render visit.1 visit.2)
      (visits.map fun visit => visit.1.evaluateText visit.2 raw) := by
  rw [List.forall₂_map_left_iff, List.forall₂_map_right_iff, List.forall₂_same]
  intro visit _
  have hread := Guard.map_expression_parse raw
  rw [h] at hread
  rw [evaluateText_of_ok visit.1 visit.2 hread.symm]
  exact sameVerdict_render visit.1 visit.2 guard

/-- All ways to put a text to an evaluator agree.  Reading it and then evaluating,
tracing or rendering does as evaluating the text.  A text that cannot be read fails with
the error of reading it, and nothing is asked or read.  The text of a traced expression,
when evaluated, comes to the traced decision by the same questions and reads.  A guard
that is rendered time and again, each time with another oracle, store and context, does
each time as evaluating the text would. -/
theorem entry_points_agree (raw : String) :
    let text := evaluator.evaluateText context raw
    let traced := evaluator.traceRead context raw
    SameVerdict id (evaluator.evaluateRead context raw) text ∧
    SameVerdict Trace.decision traced text ∧
    SameVerdict Visibility.decision (evaluator.renderRead context raw) text ∧
    (∀ cause, Expression.parse raw = .error cause →
      text.result = .error (.expression cause) ∧ text.calls = []) ∧
    (∀ trace, traced.result = .ok trace →
      let again := evaluator.evaluateText context trace.expression.display
      again.result = .ok trace.decision ∧ again.calls = traced.calls) ∧
    (∀ guard, Guard.parse raw = .ok guard → ∀ visits : List (Evaluator × Context),
      List.Forall₂ (SameVerdict Visibility.decision)
        (visits.map fun visit => guard.render visit.1 visit.2)
        (visits.map fun visit => visit.1.evaluateText visit.2 raw)) := by
  have htraced (raw : String) : SameVerdict Trace.decision (evaluator.traceRead context raw)
      (evaluator.evaluateText context raw) :=
    sameVerdict_afterReading evaluator context (congrFun Except.map_id _)
      (sameVerdict_trace evaluator context)
  refine ⟨?_, htraced raw, ?_, ?_, ?_, ?_⟩
  · exact sameVerdict_afterReading evaluator context (congrFun Except.map_id _)
      (sameVerdict_evaluate evaluator context)
  · exact sameVerdict_afterReading evaluator context (Guard.map_expression_parse raw)
      (sameVerdict_render evaluator context)
  · intro cause hcause
    rw [evaluateText_of_error evaluator context hcause]
    exact ⟨rfl, rfl⟩
  · intro trace htrace
    obtain ⟨hresult, hcalls⟩ := htraced trace.expression.display
    rw [traceRead_display evaluator context htrace] at hresult hcalls
    rw [htrace] at hresult
    exact ⟨hresult.symm, hcalls.symm⟩
  · intro guard hguard visits
    exact sameVerdict_renders hguard visits

/-- A malformed last token refuses the text, though its first atom would be allowed. -/
example :
    let context : Context := ⟨⟨.nil, some "alice", []⟩, ⟨"Wiki"⟩, .application⟩
    let evaluator : Evaluator := ⟨.authenticatedOnly, .failing (.corrupt "")⟩
    (evaluator.evaluateText context "login").result = .ok .allow ∧
      (evaluator.evaluateText context "login|!").result =
        .error (.expression (.malformedAtom "!")) ∧
      (evaluator.evaluateText context "login|!").calls = [] := by
  decide

end Evaluator
end WikiAccess
