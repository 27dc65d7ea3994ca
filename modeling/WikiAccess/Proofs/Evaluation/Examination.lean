import WikiAccess.Proofs.Evaluation.Look
import WikiAccess.Proofs.Evaluation.Scan

/-!
# What an evaluation decides, asks and reads

An expression is settled by its first atom that cannot be judged or is effective.
`evaluate_settled` says all there is to know about an evaluation from the outside:
its result in each case, and the exact questions to the oracle and reads of the
store, which are those of the atoms up to the settling one and, when there is no
such atom, of all of them.
-/

namespace WikiAccess

/-- The names that judging atoms reads the store under, in order. -/
def Context.rereads (context : Context) (atoms : List Atom) : List PageName :=
  atoms.filterMap fun atom => context.reread? atom.name

namespace Evaluator

/-- The questions that judging atoms puts to the oracle, in order. -/
def questions (evaluator : Evaluator) (context : Context) (atoms : List Atom) :
    List (Session × Permission) :=
  atoms.filterMap fun atom =>
    (evaluator.checked? context atom.name).map fun permission =>
      (context.session, permission)

/-- Whether an atom settles an expression: it cannot be judged, or it is
effective. -/
def settles (evaluator : Evaluator) (context : Context) : Atom → Bool :=
  endsScan (evaluator.judge context)

/-- The atom at index `k` is the first that settles. -/
structure SettledAt (evaluator : Evaluator) (context : Context) (atoms : List Atom)
    (k : Nat) (atom : Atom) : Prop where
  atom_eq : atoms[k]? = some atom
  settles : evaluator.settles context atom = true
  earlier : ∀ i < k, ∀ other, atoms[i]? = some other →
    evaluator.settles context other = false

variable {evaluator : Evaluator} {context : Context}

/-! ## The settling atom -/

theorem SettledAt.lt_length {atoms : List Atom} {k : Nat} {atom : Atom}
    (h : evaluator.SettledAt context atoms k atom) : k < atoms.length :=
  (List.getElem?_eq_some_iff.mp h.atom_eq).1

theorem SettledAt.findIdx_eq {atoms : List Atom} {k : Nat} {atom : Atom}
    (h : evaluator.SettledAt context atoms k atom) :
    atoms.findIdx (evaluator.settles context) = k := by
  obtain ⟨hk, hatom⟩ := List.getElem?_eq_some_iff.mp h.atom_eq
  refine (List.findIdx_eq hk).mpr ⟨?_, ?_⟩
  · rw [hatom]
    exact h.settles
  · intro i hi
    exact h.earlier i hi _ (List.getElem?_eq_getElem _)

theorem SettledAt.find?_eq {atoms : List Atom} {k : Nat} {atom : Atom}
    (h : evaluator.SettledAt context atoms k atom) :
    atoms.find? (evaluator.settles context) = some atom := by
  obtain ⟨hk, hatom⟩ := List.getElem?_eq_some_iff.mp h.atom_eq
  refine List.find?_eq_some_iff_getElem.mpr ⟨h.settles, k, hk, hatom, ?_⟩
  intro i hi
  rw [h.earlier i hi _ (List.getElem?_eq_getElem _)]
  rfl

theorem exists_settledAt {atoms : List Atom}
    (h : ∃ atom ∈ atoms, evaluator.settles context atom = true) :
    ∃ k atom, evaluator.SettledAt context atoms k atom := by
  have hk : atoms.findIdx (evaluator.settles context) < atoms.length :=
    List.findIdx_lt_length.mpr h
  refine ⟨_, _, List.getElem?_eq_getElem hk, List.findIdx_getElem, ?_⟩
  intro i hi other hother
  obtain ⟨hlength, rfl⟩ := List.getElem?_eq_some_iff.mp hother
  simpa using List.not_of_lt_findIdx hi

theorem not_settles_of_not_settledAt {atoms : List Atom}
    (h : ¬ ∃ k atom, evaluator.SettledAt context atoms k atom) :
    ∀ atom ∈ atoms, evaluator.settles context atom = false := by
  intro atom hatom
  rw [Bool.eq_false_iff]
  intro hsettles
  exact h (exists_settledAt ⟨atom, hatom, hsettles⟩)

/-! ## Scanning atoms -/

variable (evaluator context)

theorem endsScan_look :
    endsScan (evaluator.look context) = evaluator.settles context := by
  funext atom
  simp only [settles, endsScan, result_look]

theorem examined_look (atoms : List Atom) :
    examined (evaluator.look context) atoms =
      atoms.take (atoms.findIdx (evaluator.settles context) + 1) := by
  rw [examined, endsScan_look]

variable {evaluator context} in
/-- The examined atoms are those before the settling one, and it. -/
theorem SettledAt.examined_eq {atoms : List Atom} {k : Nat} {atom : Atom}
    (h : evaluator.SettledAt context atoms k atom) :
    examined (evaluator.look context) atoms = atoms.take k ++ [atom] := by
  rw [examined_look, h.findIdx_eq, List.take_add_one, h.atom_eq]
  rfl

theorem asked_scan_look (atoms : List Atom) :
    (scan (evaluator.look context) atoms).asked =
      evaluator.questions context (examined (evaluator.look context) atoms) := by
  refine view_scan_eq_filterMap (evaluator.look context) ?_ atoms
  intro atom
  rw [Option.toList_map]
  exact asked_look evaluator context atom

theorem reads_scan_look (atoms : List Atom) :
    (scan (evaluator.look context) atoms).reads =
      context.rereads (examined (evaluator.look context) atoms) :=
  view_scan_eq_filterMap (evaluator.look context)
    (fun atom => reads_look evaluator context atom) atoms

/-! ## Evaluating an expression

Between an evaluation and the scan of its atoms stand only entries of the log, so
an evaluation asks and reads what the scan does. -/

theorem examine_of_nil :
    evaluator.examine context ⟨[]⟩ =
      ⟨[.logged .emptyExpression], .error (.expression .empty)⟩ := rfl

theorem examine_of_ne_nil {atoms : List Atom} (h : atoms ≠ []) :
    evaluator.examine context ⟨atoms⟩ =
      (scan (evaluator.look context) atoms >>= fun seen => do
        Run.note (.decided seen.2)
        return seen) := by
  unfold examine
  rw [if_neg (by simpa using h)]

theorem view_examine {γ : Type} {see : Effect → Option γ} (hsee : Run.BlindToLog see)
    (expression : Expression) :
    (evaluator.examine context expression).view see =
      (scan (evaluator.look context) expression.atoms).view see := by
  obtain ⟨atoms⟩ := expression
  by_cases h : atoms = []
  · subst h
    rw [examine_of_nil, Run.view, List.filterMap_cons, hsee]
    rfl
  · rw [examine_of_ne_nil evaluator context h]
    refine Run.view_bind_of_silent _ fun seen => ?_
    rw [Run.view_note_bind hsee]
    rfl

theorem result_examine {expression : Expression} (h : expression.atoms ≠ []) :
    (evaluator.examine context expression).result =
      (scan (evaluator.look context) expression.atoms).result := by
  obtain ⟨atoms⟩ := expression
  rw [examine_of_ne_nil evaluator context h]
  cases hscan : (scan (evaluator.look context) atoms).result with
  | error error => rw [Run.bind_of_error hscan]
  | ok seen =>
    rw [Run.bind_of_ok hscan]
    rfl

theorem view_evaluate {γ : Type} {see : Effect → Option γ} (hsee : Run.BlindToLog see)
    (expression : Expression) :
    (evaluator.evaluate context expression).view see =
      (scan (evaluator.look context) expression.atoms).view see := by
  unfold evaluate
  rw [Run.view_note_bind hsee, ← view_examine evaluator context hsee]
  exact Run.view_bind_of_silent _ fun _ => rfl

theorem result_evaluate (expression : Expression) :
    (evaluator.evaluate context expression).result =
      (evaluator.examine context expression).result.map Prod.snd := by
  unfold evaluate
  rw [Run.bind_of_ok rfl]
  exact Run.result_bind_of_total _ fun _ => rfl

theorem result_evaluate_of_ne_nil {expression : Expression} (h : expression.atoms ≠ []) :
    (evaluator.evaluate context expression).result =
      (scan (evaluator.look context) expression.atoms).result.map Prod.snd := by
  rw [result_evaluate, result_examine evaluator context h]

theorem result_trace (expression : Expression) :
    (evaluator.trace context expression).result =
      (evaluator.examine context expression).result.map fun seen =>
        ⟨expression, seen.2, seen.1⟩ := by
  unfold trace
  exact Run.result_bind_of_total _ fun _ => rfl

theorem view_trace {γ : Type} {see : Effect → Option γ} (hsee : Run.BlindToLog see)
    (expression : Expression) :
    (evaluator.trace context expression).view see =
      (scan (evaluator.look context) expression.atoms).view see := by
  unfold trace
  rw [← view_examine evaluator context hsee]
  exact Run.view_bind_of_silent _ fun _ => rfl

theorem examine_of_trace {expression : Expression} {trace : Trace}
    (h : (evaluator.trace context expression).result = .ok trace) :
    trace.expression = expression ∧
      (evaluator.examine context expression).result = .ok (trace.outcomes, trace.decision) := by
  rw [result_trace] at h
  obtain ⟨seen, hexamine, rfl⟩ := Run.map_eq_ok_iff.mp h
  exact ⟨rfl, hexamine⟩

/-- Two evaluators that do the same for an expression, whether it is evaluated or
traced, in result and effects. -/
structure SameRuns (evaluator other : Evaluator) (context : Context)
    (expression : Expression) : Prop where
  evaluate : evaluator.evaluate context expression = other.evaluate context expression
  trace : evaluator.trace context expression = other.trace context expression

section Congruence

variable {evaluator context} {other : Evaluator} {expression : Expression}

/-- What is found of an expression depends on how its atoms are scanned, and on nothing
else. -/
theorem examine_congr_scan {otherContext : Context}
    (h : scan (evaluator.look context) expression.atoms =
      scan (other.look otherContext) expression.atoms) :
    evaluator.examine context expression = other.examine otherContext expression := by
  unfold examine
  rw [h]

theorem evaluate_congr_scan {otherContext : Context}
    (hsession : context.session = otherContext.session)
    (h : scan (evaluator.look context) expression.atoms =
      scan (other.look otherContext) expression.atoms) :
    evaluator.evaluate context expression = other.evaluate otherContext expression := by
  unfold evaluate
  rw [examine_congr_scan h, hsession]

theorem sameRuns_of_look
    (h : ∀ atom ∈ examined (evaluator.look context) expression.atoms,
      evaluator.look context atom = other.look context atom) :
    evaluator.SameRuns other context expression := by
  have hexamine := examine_congr_scan (scan_congr h)
  constructor
  · unfold evaluate
    rw [hexamine]
  · unfold trace
    rw [hexamine]

end Congruence

/-- An expression is decided by its settling atom: it fails as that atom does, and
is allowed otherwise. -/
theorem result_evaluate_of_settledAt {expression : Expression} {k : Nat} {atom : Atom}
    (h : evaluator.SettledAt context expression.atoms k atom) :
    (evaluator.evaluate context expression).result =
      (evaluator.judge context atom).result.map fun _ => .allow := by
  have hne : expression.atoms ≠ [] := List.ne_nil_of_length_pos (Nat.zero_lt_of_lt h.lt_length)
  rw [result_evaluate_of_ne_nil evaluator context hne, decision_scan, endsScan_look,
    h.find?_eq, ← result_look]

theorem result_evaluate_of_not_settles {expression : Expression} (hne : expression.atoms ≠ [])
    (h : ∀ atom ∈ expression.atoms, evaluator.settles context atom = false) :
    (evaluator.evaluate context expression).result = .ok .deny := by
  have hfind : expression.atoms.find? (evaluator.settles context) = none := by
    refine List.find?_eq_none.mpr ?_
    intro atom hatom
    rw [h atom hatom]
    exact Bool.false_ne_true
  rw [result_evaluate_of_ne_nil evaluator context hne, decision_scan, endsScan_look, hfind]

theorem asked_evaluate (expression : Expression) :
    (evaluator.evaluate context expression).asked =
      evaluator.questions context (examined (evaluator.look context) expression.atoms) :=
  (view_evaluate evaluator context Run.blindToLog_asked? expression).trans
    (asked_scan_look evaluator context expression.atoms)

theorem calls_evaluate (expression : Expression) :
    (evaluator.evaluate context expression).calls =
      (scan (evaluator.look context) expression.atoms).calls :=
  view_evaluate evaluator context Run.blindToLog_call? expression

theorem reads_evaluate (expression : Expression) :
    (evaluator.evaluate context expression).reads =
      context.rereads (examined (evaluator.look context) expression.atoms) :=
  (view_evaluate evaluator context Run.blindToLog_read? expression).trans
    (reads_scan_look evaluator context expression.atoms)

/-- An evaluation that fails has no atoms, or is settled by one that cannot be
judged. -/
theorem settledAt_of_error {expression : Expression} {error : EvaluationError}
    (h : (evaluator.evaluate context expression).result = .error error) :
    (expression.atoms = [] ∧ error = .expression .empty) ∨
      ∃ k atom, evaluator.SettledAt context expression.atoms k atom ∧
        (evaluator.judge context atom).result = .error error := by
  by_cases hne : expression.atoms = []
  · obtain rfl : expression = ⟨[]⟩ := Expression.ext hne
    cases h
    exact .inl ⟨rfl, rfl⟩
  · by_cases hsettled : ∃ k atom, evaluator.SettledAt context expression.atoms k atom
    · obtain ⟨k, atom, hatom⟩ := hsettled
      refine .inr ⟨k, atom, hatom, ?_⟩
      rw [result_evaluate_of_settledAt evaluator context hatom] at h
      exact Run.map_eq_error_iff.mp h
    · rw [result_evaluate_of_not_settles evaluator context hne
        (not_settles_of_not_settledAt hsettled)] at h
      cases h

theorem ne_nil_of_ok {expression : Expression} {decision : Decision}
    (h : (evaluator.evaluate context expression).result = .ok decision) :
    expression.atoms ≠ [] := by
  intro hnil
  obtain rfl : expression = ⟨[]⟩ := Expression.ext hnil
  cases h

theorem scan_of_evaluate {expression : Expression} {decision : Decision}
    (h : (evaluator.evaluate context expression).result = .ok decision) :
    ∃ outcomes, (scan (evaluator.look context) expression.atoms).result =
      .ok (outcomes, decision) := by
  rw [result_evaluate_of_ne_nil _ _ (ne_nil_of_ok _ _ h)] at h
  obtain ⟨⟨outcomes, _⟩, hscan, rfl⟩ := Run.map_eq_ok_iff.mp h
  exact ⟨outcomes, hscan⟩

/-- An expression with atoms fails for want of a resource or through the store, and not for
itself. -/
theorem error_of_evaluate {expression : Expression} {error : EvaluationError}
    (hne : expression.atoms ≠ [])
    (h : (evaluator.evaluate context expression).result = .error error) :
    (∃ name required, error = .missingResource name required) ∨
      ∃ cause, error = .store cause := by
  rcases settledAt_of_error evaluator context h with ⟨hnil, -⟩ | ⟨k, atom, -, hjudge⟩
  · exact absurd hnil hne
  · have hlook := (result_look evaluator context atom).trans hjudge
    rcases Context.error_of_resolve (result_look_eq_error_iff.mp hlook) with
      ⟨required, hmissing⟩ | hstore
    · exact .inl ⟨atom.name, required, hmissing⟩
    · exact .inr hstore

/-- An expression is allowed by one of its atoms. -/
theorem exists_effective_of_allow {expression : Expression}
    (h : (evaluator.evaluate context expression).result = .ok .allow) :
    ∃ atom ∈ expression.atoms, ∃ outcome,
      (evaluator.judge context atom).result = .ok outcome ∧ outcome.effective = true := by
  have hne := ne_nil_of_ok evaluator context h
  by_cases hsettled : ∃ k atom, evaluator.SettledAt context expression.atoms k atom
  · obtain ⟨k, atom, hatom⟩ := hsettled
    have hsettles := hatom.settles
    rw [result_evaluate_of_settledAt evaluator context hatom] at h
    obtain ⟨outcome, hjudge, -⟩ := Run.map_eq_ok_iff.mp h
    rw [settles, endsScan_of_ok hjudge] at hsettles
    exact ⟨atom, List.mem_of_getElem? hatom.atom_eq, outcome, hjudge, hsettles⟩
  · rw [result_evaluate_of_not_settles evaluator context hne
      (not_settles_of_not_settledAt hsettled)] at h
    cases h

/-- An atom settles nothing when it is judged and not effective. -/
theorem settles_eq_false_iff {atom : Atom} :
    evaluator.settles context atom = false ↔
      ∃ outcome, (evaluator.judge context atom).result = .ok outcome ∧
        outcome.effective = false := by
  cases hjudge : (evaluator.judge context atom).result with
  | error error => simp [settles, endsScan_of_error hjudge]
  | ok outcome => simp [settles, endsScan_of_ok hjudge]

theorem result_evaluate_eq_deny_iff {expression : Expression} :
    (evaluator.evaluate context expression).result = .ok .deny ↔
      expression.atoms ≠ [] ∧
        ∀ atom ∈ expression.atoms, evaluator.settles context atom = false := by
  constructor
  · intro h
    refine ⟨ne_nil_of_ok evaluator context h, ?_⟩
    apply not_settles_of_not_settledAt
    rintro ⟨k, atom, hatom⟩
    rw [result_evaluate_of_settledAt evaluator context hatom] at h
    obtain ⟨outcome, -, hallow⟩ := Run.map_eq_ok_iff.mp h
    cases hallow
  · rintro ⟨hne, hnone⟩
    exact result_evaluate_of_not_settles evaluator context hne hnone

/-- The exact meaning of an evaluation, its questions and reads included.  Without
atoms it fails at once.  With a settling atom it fails as that atom does or allows,
having asked and read for the atoms up to that one.  It denies exactly when there
are atoms and none settles, having asked and read for all of them. -/
theorem evaluate_settled (expression : Expression) :
    let atoms := expression.atoms
    let run := evaluator.evaluate context expression
    (atoms = [] →
      run.result = .error (.expression .empty) ∧ run.asked = [] ∧ run.reads = []) ∧
    (∀ k atom, evaluator.SettledAt context atoms k atom →
      (∀ error, (evaluator.judge context atom).result = .error error →
        run.result = .error error) ∧
      (∀ outcome, (evaluator.judge context atom).result = .ok outcome →
        outcome.effective = true ∧ run.result = .ok .allow) ∧
      run.asked = evaluator.questions context (atoms.take (k + 1)) ∧
      run.reads = context.rereads (atoms.take (k + 1))) ∧
    (run.result = .ok .deny ↔
      atoms ≠ [] ∧ ¬ ∃ k atom, evaluator.SettledAt context atoms k atom) ∧
    ((¬ ∃ k atom, evaluator.SettledAt context atoms k atom) →
      run.asked = evaluator.questions context atoms ∧
      run.reads = context.rereads atoms) := by
  intro atoms run
  have hexamined := examined_look evaluator context atoms
  refine ⟨?_, ?_, ⟨?_, ?_⟩, ?_⟩
  · intro hnil
    obtain rfl : expression = ⟨[]⟩ := Expression.ext hnil
    exact ⟨rfl, rfl, rfl⟩
  · intro k atom h
    have hresult := result_evaluate_of_settledAt evaluator context h
    rw [h.findIdx_eq] at hexamined
    refine ⟨?_, ?_, ?_, ?_⟩
    · intro error herror
      rw [hresult, herror]
      rfl
    · intro outcome houtcome
      have heffective : evaluator.settles context atom = outcome.effective :=
        endsScan_of_ok houtcome
      refine ⟨heffective ▸ h.settles, ?_⟩
      rw [hresult, houtcome]
      rfl
    · rw [← hexamined]
      exact asked_evaluate evaluator context expression
    · rw [← hexamined]
      exact reads_evaluate evaluator context expression
  · intro hdeny
    refine ⟨?_, ?_⟩
    · intro hnil
      obtain rfl : expression = ⟨[]⟩ := Expression.ext hnil
      cases hdeny
    · rintro ⟨k, atom, h⟩
      have hresult := result_evaluate_of_settledAt evaluator context h
      rw [hdeny] at hresult
      cases hjudge : (evaluator.judge context atom).result <;>
        simp [hjudge, Except.map] at hresult
  · rintro ⟨hne, hnone⟩
    exact result_evaluate_of_not_settles evaluator context hne
      (not_settles_of_not_settledAt hnone)
  · intro hnone
    have hall : examined (evaluator.look context) atoms = atoms := by
      refine examined_of_not_endsScan (evaluator.look context) ?_
      rw [endsScan_look]
      exact not_settles_of_not_settledAt hnone
    refine ⟨?_, ?_⟩
    · exact (asked_evaluate evaluator context expression).trans (congrArg _ hall)
    · exact (reads_evaluate evaluator context expression).trans (congrArg _ hall)

end Evaluator
end WikiAccess
