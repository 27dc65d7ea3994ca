import WikiAccess.Proofs.Evaluation.Examination
import WikiAccess.Proofs.Evaluation.Resolution

/-!
# Negated atoms and expressions that are never denied

A negated atom is judged as the plain one is and is effective when that one is not.
A denied expression has judged all its atoms and found none effective.  So an expression
is never denied that has an atom together with its negation, or that has atoms which no
one context can resolve, such as one about a group and one about a page.
-/

namespace WikiAccess

/-- The same name, negated the other way. -/
def Atom.negate (atom : Atom) : Atom := { atom with negated := !atom.negated }

theorem Atom.effective_negate (atom : Atom) (raw : Bool) :
    atom.negate.effective raw = !atom.effective raw := by
  unfold negate effective
  cases raw <;> cases atom.negated <;> rfl

namespace Outcome

/-- Two outcomes that differ in nothing but in which of them is effective. -/
structure Opposite (outcome other : Outcome) : Prop where
  permission? : other.permission? = outcome.permission?
  staleEdit? : other.staleEdit? = outcome.staleEdit?
  raw : other.raw = outcome.raw
  effective : other.effective = !outcome.effective

theorem opposite_negate (atom : Atom) (finding : Finding) :
    Opposite ⟨atom, finding⟩ ⟨atom.negate, finding⟩ :=
  ⟨rfl, rfl, rfl, atom.effective_negate _⟩

end Outcome

namespace Evaluator

variable {evaluator : Evaluator} {context : Context}

variable (evaluator context) in
/-- What a name is found to be decides both the plain and the negated atom. -/
theorem judge_negate (atom : Atom) :
    (∃ error, (evaluator.judge context atom).result = .error error ∧
      (evaluator.judge context atom.negate).result = .error error) ∨
    ∃ outcome other, (evaluator.judge context atom).result = .ok outcome ∧
      (evaluator.judge context atom.negate).result = .ok other ∧ outcome.Opposite other := by
  have hname : atom.negate.name = atom.name := rfl
  rw [result_judge, result_judge, hname]
  cases (evaluator.find context atom.name).result with
  | error error => exact .inl ⟨error, rfl, rfl⟩
  | ok finding =>
    exact .inr ⟨⟨atom, finding⟩, ⟨atom.negate, finding⟩, rfl, rfl,
      Outcome.opposite_negate atom finding⟩

/-- Of two atoms that do not settle, both are judged, and neither is effective. -/
theorem judged_of_not_settles {first second : Atom}
    (h : ¬ (evaluator.settles context first = true ∨ evaluator.settles context second = true)) :
    (∃ outcome, (evaluator.judge context first).result = .ok outcome ∧
      outcome.effective = false) ∧
    ∃ outcome, (evaluator.judge context second).result = .ok outcome ∧
      outcome.effective = false := by
  rw [not_or, Bool.not_eq_true, Bool.not_eq_true, settles_eq_false_iff,
    settles_eq_false_iff] at h
  exact h

/-- Of an atom and its negation, one settles. -/
theorem settles_or_settles_negate (atom : Atom) :
    evaluator.settles context atom = true ∨ evaluator.settles context atom.negate = true := by
  by_contra hnone
  obtain ⟨⟨outcome, hjudge, heffective⟩, other, hnegate, hother⟩ := judged_of_not_settles hnone
  obtain ⟨error, herror, -⟩ | ⟨_, _, houtcome, hopposite, h⟩ :=
    judge_negate evaluator context atom
  · rw [hjudge] at herror
    cases herror
  · rw [hjudge] at houtcome
    rw [hnegate] at hopposite
    cases houtcome
    cases hopposite
    rw [h.effective, heffective] at hother
    cases hother

/-- Of an atom about a group and one about a page, one settles, since only one of the two
resources is at hand. -/
theorem settles_or_settles_of_group_of_page {group page : Atom}
    (hgroup : group.name ∈ PermissionKind.groupNames)
    (hpage : (PermissionKind.ofName page.name).required = .page) :
    evaluator.settles context group = true ∨ evaluator.settles context page = true := by
  by_contra hnone
  obtain ⟨⟨_, hjudgeGroup, -⟩, _, hjudgePage, -⟩ := judged_of_not_settles hnone
  have hsupplied := supplies_of_look ((result_look _ _ _).trans hjudgeGroup)
  rw [PermissionKind.mem_groupNames_iff.mp hgroup] at hsupplied
  have hother := supplies_of_look ((result_look _ _ _).trans hjudgePage)
  rw [hpage] at hother
  obtain ⟨_, hresource⟩ := hsupplied
  obtain ⟨_, hother⟩ := hother
  rw [hresource] at hother
  cases hother

theorem not_denied_of_settles {expression : Expression} {atom : Atom}
    (hmem : atom ∈ expression.atoms) (h : evaluator.settles context atom = true) :
    (evaluator.evaluate context expression).result = .ok .allow ∨
      ∃ error, (evaluator.evaluate context expression).result = .error error := by
  cases hresult : (evaluator.evaluate context expression).result with
  | error error => exact .inr ⟨error, rfl⟩
  | ok decision =>
    cases decision with
    | allow => exact .inl rfl
    | deny =>
      have hnone := ((result_evaluate_eq_deny_iff evaluator context).mp hresult).2 atom hmem
      rw [h] at hnone
      cases hnone

variable (evaluator context)

/-- Negation changes only whether an atom is effective, a refused edit included.  So an
expression with an atom and its negation, or with one atom about a group and one about a
page, is allowed or fails, whatever else it contains. -/
theorem negation_is_exact :
    (∀ name,
      (∃ error, (evaluator.judge context ⟨name, false⟩).result = .error error ∧
        (evaluator.judge context ⟨name, true⟩).result = .error error) ∨
      ∃ plain negated, (evaluator.judge context ⟨name, false⟩).result = .ok plain ∧
        (evaluator.judge context ⟨name, true⟩).result = .ok negated ∧ plain.Opposite negated) ∧
    ∀ expression : Expression,
      ((∃ atom ∈ expression.atoms, atom.negate ∈ expression.atoms) ∨
        ∃ group ∈ expression.atoms, ∃ page ∈ expression.atoms,
          group.name ∈ PermissionKind.groupNames ∧
            (PermissionKind.ofName page.name).required = .page) →
      (evaluator.evaluate context expression).result = .ok .allow ∨
        ∃ error, (evaluator.evaluate context expression).result = .error error := by
  refine ⟨fun name => judge_negate evaluator context ⟨name, false⟩, fun expression h => ?_⟩
  rcases h with ⟨atom, hatom, hnegate⟩ | ⟨group, hgroup, page, hpage, hname, hrequired⟩
  · rcases settles_or_settles_negate atom with hsettles | hsettles
    · exact not_denied_of_settles hatom hsettles
    · exact not_denied_of_settles hnegate hsettles
  · rcases settles_or_settles_of_group_of_page hname hrequired with hsettles | hsettles
    · exact not_denied_of_settles hgroup hsettles
    · exact not_denied_of_settles hpage hsettles

/-- At an outdated revision, where editing is refused, an expression with both editing and
not editing is not denied, and neither is one about the page and a group. -/
theorem negation_is_exact_outdated_revision :
    let page : Page := ⟨⟨"Main"⟩, ⟨1⟩, none⟩
    let context : Context := ⟨.anonymous .nil, ⟨"Wiki"⟩, .page page⟩
    let evaluator : Evaluator := ⟨.authenticatedOnly, ⟨fun name => .ok (some ⟨name, ⟨2⟩, none⟩)⟩⟩
    let edits : Expression := ⟨[⟨"edit", false⟩, ⟨"view", false⟩, ⟨"edit", true⟩]⟩
    let mixed : Expression := ⟨[⟨"view", false⟩, ⟨"deleteGroup", true⟩]⟩
    let result (expression : Expression) := (evaluator.evaluate context expression).result
    (∃ atom ∈ edits.atoms, atom.negate ∈ edits.atoms) ∧
      (result edits = .ok .allow ∨ ∃ error, result edits = .error error) ∧
      (∃ group ∈ mixed.atoms, ∃ page ∈ mixed.atoms, group.name ∈ PermissionKind.groupNames ∧
        (PermissionKind.ofName page.name).required = .page) ∧
      (result mixed = .ok .allow ∨ ∃ error, result mixed = .error error) := by
  intro page context evaluator edits mixed result
  have hedits : ∃ atom ∈ edits.atoms, atom.negate ∈ edits.atoms := by decide
  have hmixed : ∃ group ∈ mixed.atoms, ∃ page ∈ mixed.atoms,
      group.name ∈ PermissionKind.groupNames ∧
        (PermissionKind.ofName page.name).required = .page := by decide
  obtain ⟨-, hnever⟩ := negation_is_exact evaluator context
  exact ⟨hedits, hnever edits (.inl hedits), hmixed, hnever mixed (.inr hmixed)⟩

end Evaluator
end WikiAccess
