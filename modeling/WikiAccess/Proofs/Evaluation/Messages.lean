import WikiAccess.Evaluation.Basic
import WikiAccess.Proofs.Text.Append

/-!
# Messages tell errors apart

Every error has its own message.  Errors of different kinds differ in how their messages
begin, and within a kind all that varies stands between fixed texts.
-/

namespace WikiAccess

theorem StoreError.message_inj {error other : StoreError} (h : error.message = other.message) :
    error = other := by
  have hne (detail reason : String) :
      (unavailable detail).message ≠ (corrupt reason).message :=
    Text.append_ne_append (by decide) (by decide) detail reason
  cases error with
  | unavailable detail =>
    cases other with
    | unavailable reason => exact congrArg unavailable (Text.append_left_cancel h)
    | corrupt reason => exact absurd h (hne detail reason)
  | corrupt detail =>
    cases other with
    | unavailable reason => exact absurd h.symm (hne reason detail)
    | corrupt reason => exact congrArg corrupt (Text.append_left_cancel h)

/-- How the message of an error begins, which tells the kind of the error. -/
def EvaluationError.lead : EvaluationError → String
  | .expression .empty => "permission e"
  | .expression (.malformedAtom _) => "malformed pe"
  | .missingResource _ _ => "permission '"
  | .store _ => "page store f"

theorem EvaluationError.take_message (error : EvaluationError) :
    error.message.toList.take 12 = error.lead.toList := by
  cases error with
  | expression cause =>
    cases cause with
    | empty => decide
    | malformedAtom token =>
      show ("malformed permission atom '" ++ token ++ "'").toList.take 12 = _
      rw [String.append_assoc, Text.take_append]
      · show _ = "malformed pe".toList
        decide
      · decide
  | missingResource permission required =>
    show ("permission '" ++ permission ++ "' requires a " ++ required.display ++
      " in the resource context").toList.take 12 = _
    rw [String.append_assoc, String.append_assoc, String.append_assoc, Text.take_append]
    · show _ = "permission '".toList
      decide
    · decide
  | store cause =>
    show ("page store failure: " ++ cause.message).toList.take 12 = _
    rw [Text.take_append]
    · show _ = "page store f".toList
      decide
    · decide

theorem Requirement.append_display_inj {text other : String} {required wanted : Requirement}
    (h : text ++ required.display = other ++ wanted.display) :
    text = other ∧ required = wanted := by
  have hne (required : Requirement) : required.display.toList ≠ [] := by
    cases required <;> decide
  have hlast := congrArg (fun text : String => text.toList.getLast?) h
  simp only [Text.getLast?_append _ (hne _)] at hlast
  obtain rfl : required = wanted := by
    cases required <;> cases wanted <;> first | rfl | exact absurd hlast (by decide)
  exact ⟨Text.append_right_cancel h, rfl⟩

theorem EvaluationError.message_inj {error other : EvaluationError}
    (h : error.message = other.message) : error = other := by
  have hlead : error.lead = other.lead := by
    rw [← String.toList_inj, ← take_message, ← take_message, h]
  cases error with
  | expression cause =>
    cases other with
    | expression reason =>
      cases cause with
      | empty =>
        cases reason with
        | empty => rfl
        | malformedAtom token => simp [lead] at hlead
      | malformedAtom token =>
        cases reason with
        | empty => simp [lead] at hlead
        | malformedAtom other =>
          rw [Text.append_left_cancel (Text.append_right_cancel h)]
    | missingResource permission required => cases cause <;> simp [lead] at hlead
    | store cause' => cases cause <;> simp [lead] at hlead
  | missingResource permission required =>
    cases other with
    | expression cause => cases cause <;> simp [lead] at hlead
    | missingResource name wanted =>
      obtain ⟨htext, rfl⟩ := Requirement.append_display_inj (Text.append_right_cancel h)
      rw [Text.append_left_cancel (Text.append_right_cancel htext)]
    | store cause => simp [lead] at hlead
  | store cause =>
    cases other with
    | expression reason => cases reason <;> simp [lead] at hlead
    | missingResource permission required => simp [lead] at hlead
    | store reason => rw [StoreError.message_inj (Text.append_left_cancel h)]

end WikiAccess
