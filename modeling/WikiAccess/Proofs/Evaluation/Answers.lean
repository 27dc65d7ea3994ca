import WikiAccess.Evaluation.Evaluator

/-!
# Evaluations by oracles that answer alike

What an oracle writes to the log has no part in what comes of its answers.  Two runs that
differ in nothing but the log go on to runs that differ in nothing but the log.  This is
carried from the question up through the layers of an evaluation, so that two oracles with
the same answers for a session lead to the same results, questions and reads.
-/

namespace WikiAccess
namespace Run

variable {ε α β : Type}

/-- Two runs that differ in nothing but what they write to the log. -/
structure SameButLog (run other : Run ε α) : Prop where
  result : run.result = other.result
  calls : run.calls = other.calls

namespace SameButLog

protected theorem rfl {run : Run ε α} : run.SameButLog run := ⟨Eq.refl _, Eq.refl _⟩

variable {run other : Run ε α}

protected theorem bind (h : run.SameButLog other) {next after : α → Run ε β}
    (hnext : ∀ value, (next value).SameButLog (after value)) :
    (run >>= next).SameButLog (other >>= after) := by
  cases hrun : run.result with
  | error error =>
    have hother : other.result = .error error := h.result.symm.trans hrun
    rw [bind_of_error hrun, bind_of_error hother]
    exact ⟨Eq.refl _, h.calls⟩
  | ok value =>
    have hother : other.result = .ok value := h.result.symm.trans hrun
    constructor
    · rw [bind_of_ok hrun, bind_of_ok hother]
      exact (hnext value).result
    · show (run >>= next).view Effect.call? = (other >>= after).view Effect.call?
      have hcalls : run.view Effect.call? = other.view Effect.call? := h.calls
      have hafter : (next value).view Effect.call? = (after value).view Effect.call? :=
        (hnext value).calls
      rw [view_bind_of_ok hrun, view_bind_of_ok hother, hcalls, hafter]

protected theorem noteError (h : run.SameButLog other) (event : ε → Log.Event) :
    (run.noteError event).SameButLog (other.noteError event) := by
  constructor
  · rw [result_noteError, result_noteError, h.result]
  · show (run.noteError event).view Effect.call? = (other.noteError event).view Effect.call?
    rw [view_noteError blindToLog_call?, view_noteError blindToLog_call?]
    exact h.calls

end SameButLog
end Run

theorem sameButLog_scan {α : Type} {look other : α → Run EvaluationError Outcome}
    {items : List α} (h : ∀ item ∈ items, (look item).SameButLog (other item)) :
    (scan look items).SameButLog (scan other items) := by
  induction items with
  | nil => exact .rfl
  | cons item rest ih =>
    obtain ⟨hitem, hrest⟩ := List.forall_mem_cons.mp h
    refine hitem.bind fun outcome => ?_
    split
    · exact .rfl
    · exact (ih hrest).bind fun _ => .rfl

/-- Two oracles answer alike whatever they are asked about a session. -/
def Oracle.AgreesWith (oracle other : Oracle) (session : Session) : Prop :=
  ∀ permission, oracle.holds session permission = other.holds session permission

namespace Evaluator

variable {oracle other : Oracle} {store : PageStore} {context : Context}
  (h : oracle.AgreesWith other context.session)

include h

theorem sameButLog_ask {ε : Type} (permission : Permission) :
    (oracle.ask context.session permission : Run ε Bool).SameButLog
      (other.ask context.session permission) := by
  constructor
  · exact congrArg Except.ok (h permission)
  · exact (oracle.view_ask _ _ Run.blindToLog_call?).trans
      (other.view_ask _ _ Run.blindToLog_call?).symm

theorem sameButLog_find (name : String) :
    (Evaluator.find ⟨oracle, store⟩ context name).SameButLog
      (Evaluator.find ⟨other, store⟩ context name) := by
  refine Run.SameButLog.rfl.bind fun resolution => ?_
  cases resolution with
  | stale edit => exact .rfl
  | check permission => exact (sameButLog_ask h permission).bind fun _ => .rfl

theorem sameButLog_look (atom : Atom) :
    (Evaluator.look ⟨oracle, store⟩ context atom).SameButLog
      (Evaluator.look ⟨other, store⟩ context atom) := by
  have hjudge : (Evaluator.judge ⟨oracle, store⟩ context atom).SameButLog
      (Evaluator.judge ⟨other, store⟩ context atom) :=
    (sameButLog_find h atom.name).bind fun _ => .rfl
  exact hjudge.noteError _

theorem sameButLog_examine (expression : Expression) :
    (Evaluator.examine ⟨oracle, store⟩ context expression).SameButLog
      (Evaluator.examine ⟨other, store⟩ context expression) := by
  unfold examine
  split
  · exact .rfl
  · exact (sameButLog_scan fun atom _ => sameButLog_look h atom).bind fun _ => .rfl

theorem sameButLog_evaluate (expression : Expression) :
    (Evaluator.evaluate ⟨oracle, store⟩ context expression).SameButLog
      (Evaluator.evaluate ⟨other, store⟩ context expression) :=
  Run.SameButLog.rfl.bind fun _ => (sameButLog_examine h expression).bind fun _ => .rfl

theorem sameButLog_trace (expression : Expression) :
    (Evaluator.trace ⟨oracle, store⟩ context expression).SameButLog
      (Evaluator.trace ⟨other, store⟩ context expression) :=
  (sameButLog_examine h expression).bind fun _ => .rfl

end Evaluator
end WikiAccess
