import WikiAccess.Proofs.Evaluation.Examination

/-!
# What a trace explains

A trace lists the outcomes of the atoms that were looked at.  `trace_explains` says
that the list is a sound and complete explanation of the decision: which atoms it
covers, how they led to the decision, that each outcome is what resolving and asking
came to (`Outcome.Faithful`), and that no question was asked that it does not show.
-/

namespace WikiAccess

/-- An outcome tells what happened to its atom.  It shows either the permission that
the name came to, with the oracle's answer, or the refusal of a pinned revision that
the store does not have as its newest. -/
structure Outcome.Faithful (evaluator : Evaluator) (context : Context) (outcome : Outcome) :
    Prop where
  effective : outcome.effective = (outcome.raw != outcome.atom.negated)
  either : outcome.permission?.isSome = !outcome.staleEdit?.isSome
  permission : ∀ permission, outcome.permission? = some permission →
    (context.resolve evaluator.store outcome.atom.name).result = .ok (.check permission) ∧
      outcome.raw = evaluator.oracle.holds context.session permission
  staleEdit : ∀ edit, outcome.staleEdit? = some edit →
    outcome.raw = false ∧ outcome.atom.name = "edit" ∧
      ∃ page newest, context.page? = some page ∧ page.version ≠ .latest ∧
        evaluator.store.newest page.name = .ok newest ∧
        edit.page = page.name ∧ edit.requested = page.version ∧
        edit.newest = newest.map Page.version ∧ edit.newest ≠ some edit.requested

namespace Evaluator

variable {evaluator : Evaluator} {context : Context}

/-! ## One outcome -/

theorem faithful_of_look {atom : Atom} {outcome : Outcome}
    (h : (evaluator.look context atom).result = .ok outcome) :
    outcome.Faithful evaluator context := by
  obtain ⟨resolution, hresolve, rfl⟩ := resolution_of_look h
  cases resolution with
  | check checked =>
    refine ⟨rfl, rfl, ?_, ?_⟩
    · intro permission hpermission
      obtain rfl : checked = permission := Option.some_inj.mp hpermission
      exact ⟨hresolve, rfl⟩
    · intro edit hedit
      cases hedit
  | stale refused =>
    refine ⟨rfl, rfl, ?_, ?_⟩
    · intro permission hpermission
      cases hpermission
    · intro edit hedit
      obtain rfl : refused = edit := Option.some_inj.mp hedit
      obtain ⟨hname, page, newest, hpage, hpinned, hnewest, hne, rfl⟩ :=
        Context.stale_of_resolve hresolve
      exact ⟨rfl, hname, page, newest, hpage, hpinned, hnewest, rfl, rfl, rfl, hne⟩

theorem atom_of_look {atom : Atom} {outcome : Outcome}
    (h : (evaluator.look context atom).result = .ok outcome) : outcome.atom = atom := by
  obtain ⟨resolution, -, rfl⟩ := resolution_of_look h
  rfl

theorem permission?_of_look {atom : Atom} {outcome : Outcome}
    (h : (evaluator.look context atom).result = .ok outcome) :
    outcome.permission? = evaluator.checked? context atom.name := by
  obtain ⟨resolution, hresolve, rfl⟩ := resolution_of_look h
  unfold checked?
  rw [hresolve]
  cases resolution <;> rfl

/-! ## All outcomes -/

section Outcomes

variable {atoms : List Atom} {outcomes : List Outcome}
  (h : List.Forall₂ (fun atom outcome => (evaluator.look context atom).result = .ok outcome)
    atoms outcomes)

include h

theorem map_atom_of_looks : outcomes.map Outcome.atom = atoms := by
  induction h with
  | nil => rfl
  | cons hlook _ ih => rw [List.map_cons, atom_of_look hlook, ih]

theorem questions_of_looks :
    evaluator.questions context atoms =
      (outcomes.filterMap Outcome.permission?).map fun permission =>
        (context.session, permission) := by
  unfold questions
  induction h with
  | nil => rfl
  | cons hlook _ ih =>
    rw [List.filterMap_cons, List.filterMap_cons, permission?_of_look hlook, ih]
    cases evaluator.checked? context _ <;> rfl

theorem faithful_of_looks : ∀ outcome ∈ outcomes, outcome.Faithful evaluator context := by
  induction h with
  | nil => exact fun _ hmem => nomatch hmem
  | cons hlook _ ih => exact List.forall_mem_cons.mpr ⟨faithful_of_look hlook, ih⟩

end Outcomes

/-! ## The trace -/

theorem scan_of_trace {expression : Expression} {trace : Trace}
    (h : (evaluator.trace context expression).result = .ok trace) :
    expression.atoms ≠ [] ∧
      (scan (evaluator.look context) expression.atoms).result =
        .ok (trace.outcomes, trace.decision) := by
  have hexamine := (examine_of_trace evaluator context h).2
  by_cases hne : expression.atoms = []
  · obtain rfl : expression = ⟨[]⟩ := Expression.ext hne
    cases hexamine
  · rw [result_examine evaluator context hne] at hexamine
    exact ⟨hne, hexamine⟩

/-- A trace is a sound and complete explanation.  Its outcomes are those of a part of
the atoms, from the first on and not empty, and no outcome before the last is
effective.  The decision is to allow exactly when the last is, and otherwise no atom is
left out.  Each outcome is faithful, and the permissions that they show are the
questions that the oracle was asked, in order. -/
theorem trace_explains {expression : Expression} {trace : Trace}
    (h : (evaluator.trace context expression).result = .ok trace) :
    trace.outcomes ≠ [] ∧
    trace.outcomes.map Outcome.atom <+: expression.atoms ∧
    (∀ outcome ∈ trace.outcomes.dropLast, outcome.effective = false) ∧
    (trace.decision = .allow ↔
      ∃ last, trace.outcomes.getLast? = some last ∧ last.effective = true) ∧
    (trace.decision = .deny → trace.outcomes.map Outcome.atom = expression.atoms) ∧
    (∀ outcome ∈ trace.outcomes, outcome.Faithful evaluator context) ∧
    (evaluator.trace context expression).asked =
      (trace.outcomes.filterMap Outcome.permission?).map fun permission =>
        (context.session, permission) := by
  obtain ⟨hne, hscan⟩ := scan_of_trace h
  have houtcomes := forall₂_examined_of_scan hscan
  have hatoms := map_atom_of_looks houtcomes
  refine ⟨?_, ?_, effective_dropLast_of_scan hscan, allow_iff_of_scan hscan, ?_,
    faithful_of_looks houtcomes, ?_⟩
  · intro hnil
    rw [hnil] at hatoms
    exact examined_ne_nil _ hne hatoms.symm
  · rw [hatoms]
    exact List.take_prefix _ _
  · intro hdeny
    rw [hdeny] at hscan
    rw [hatoms, examined_of_scan_deny hscan]
  · rw [← questions_of_looks houtcomes]
    exact (view_trace evaluator context Run.blindToLog_asked? expression).trans
      (asked_scan_look evaluator context expression.atoms)

/-- At an outdated revision a client that has not logged in may not view and is refused
to edit, and is allowed because it may not edit.  The last atom is not looked at. -/
theorem trace_explains_outdated_revision :
    let page : Page := ⟨⟨"Main"⟩, ⟨1⟩, none⟩
    let context : Context := ⟨.anonymous .nil, ⟨"Wiki"⟩, .page page⟩
    let evaluator : Evaluator := ⟨.authenticatedOnly, ⟨fun name => .ok (some ⟨name, ⟨2⟩, none⟩)⟩⟩
    let expression : Expression :=
      ⟨[⟨"view", false⟩, ⟨"edit", false⟩, ⟨"edit", true⟩, ⟨"login", false⟩]⟩
    let edit : StaleEdit := ⟨⟨"Main"⟩, ⟨1⟩, some ⟨2⟩⟩
    let trace : Trace := ⟨expression, .allow,
      [⟨⟨"view", false⟩, .answered (.page ⟨"Wiki"⟩ ⟨"Main"⟩ ⟨"view"⟩) false⟩,
        ⟨⟨"edit", false⟩, .stale edit⟩, ⟨⟨"edit", true⟩, .stale edit⟩]⟩
    (evaluator.trace context expression).result = .ok trace ∧
      trace.outcomes.map Outcome.atom <+: expression.atoms ∧
      (∀ outcome ∈ trace.outcomes, outcome.Faithful evaluator context) ∧
      (evaluator.trace context expression).asked =
        [(context.session, .page ⟨"Wiki"⟩ ⟨"Main"⟩ ⟨"view"⟩)] := by
  intro page context evaluator expression edit trace
  have htrace : (evaluator.trace context expression).result = .ok trace := by decide
  obtain ⟨-, hprefix, -, -, -, hfaithful, hasked⟩ := trace_explains htrace
  exact ⟨htrace, hprefix, hfaithful, hasked⟩

end Evaluator
end WikiAccess
