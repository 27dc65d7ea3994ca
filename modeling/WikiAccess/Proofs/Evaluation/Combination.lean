import WikiAccess.Proofs.Evaluation.Examination
import WikiAccess.Proofs.Expression.Grammar

/-!
# Expressions made of the atoms of others

What an expression comes to depends on the order of its atoms, since an atom that
cannot be judged matters only when no earlier one allows.  A denial does not depend on
it, for it says the same of every atom.  So the same atoms decide alike in any order and
number, as long as they decide at all.

Of two lists one after the other, the second is evaluated only when the first denies.
Two texts with a separator between them read as such lists, one from each side.
-/

namespace WikiAccess

/-! ## Two texts around a separator -/

namespace Expression

/-- The atoms that a text contributes to a longer one, which are none when it is
empty. -/
def Contributes (raw : String) (atoms : List Atom) : Prop :=
  parse raw = .ok ⟨atoms⟩ ∨ (parse raw = .error .empty ∧ atoms = [])

theorem contributes_iff {raw : String} {atoms : List Atom} :
    Contributes raw atoms ↔
      ['!'] ∉ tokens raw.toList ∧ atoms = (tokens raw.toList).map Atom.written := by
  unfold Contributes
  rw [parse_eq_written_iff, parse_eq_empty_iff]
  by_cases hnil : tokens raw.toList = []
  · simp [hnil]
  · simp [hnil]

theorem tokens_join (a b : String) :
    tokens (a ++ "|" ++ b).toList = tokens a.toList ++ tokens b.toList := by
  have hjoin : (a ++ "|" ++ b).toList = a.toList ++ '|' :: b.toList := by simp
  rw [hjoin, tokens_append_separator]

theorem parse_join_malformed_iff (a b : String) :
    parse (a ++ "|" ++ b) = .error (.malformedAtom "!") ↔
      parse a = .error (.malformedAtom "!") ∨ parse b = .error (.malformedAtom "!") := by
  simp only [parse_eq_malformed_iff, tokens_join, List.mem_append, true_and]

theorem parse_join_empty_iff (a b : String) :
    parse (a ++ "|" ++ b) = .error .empty ↔
      parse a = .error .empty ∧ parse b = .error .empty := by
  simp only [parse_eq_empty_iff, tokens_join, List.append_eq_nil_iff]

theorem exists_contributes_join {a b : String}
    (ha : parse a ≠ .error (.malformedAtom "!")) (hb : parse b ≠ .error (.malformedAtom "!")) :
    ∃ first second, Contributes a first ∧ Contributes b second ∧
      Contributes (a ++ "|" ++ b) (first ++ second) := by
  rw [Ne, parse_eq_malformed_iff, and_iff_right rfl] at ha hb
  refine ⟨_, _, contributes_iff.mpr ⟨ha, rfl⟩, contributes_iff.mpr ⟨hb, rfl⟩, ?_⟩
  rw [contributes_iff, tokens_join, List.mem_append, List.map_append]
  exact ⟨not_or.mpr ⟨ha, hb⟩, rfl⟩

end Expression

namespace Evaluator

section Evaluations

variable {evaluator : Evaluator} {context : Context}

/-! ## The same atoms in another order -/

theorem deny_of_same_atoms {expression other : Expression}
    (h : ∀ atom, atom ∈ expression.atoms ↔ atom ∈ other.atoms)
    (hdeny : (evaluator.evaluate context expression).result = .ok .deny) :
    (evaluator.evaluate context other).result = .ok .deny := by
  rw [result_evaluate_eq_deny_iff] at hdeny ⊢
  obtain ⟨hne, hnone⟩ := hdeny
  refine ⟨?_, ?_⟩
  · obtain ⟨atom, hatom⟩ := List.exists_mem_of_ne_nil _ hne
    exact List.ne_nil_of_mem ((h atom).mp hatom)
  · intro atom hatom
    exact hnone atom ((h atom).mpr hatom)

theorem decision_eq_of_same_atoms {expression other : Expression}
    (h : ∀ atom, atom ∈ expression.atoms ↔ atom ∈ other.atoms) {before after : Decision}
    (hbefore : (evaluator.evaluate context expression).result = .ok before)
    (hafter : (evaluator.evaluate context other).result = .ok after) : before = after := by
  -- Two decisions differ only when one of them denies, and then so does the other.
  cases before with
  | deny =>
    have hdeny := deny_of_same_atoms h hbefore
    rw [hafter] at hdeny
    cases hdeny
    rfl
  | allow =>
    cases after with
    | allow => rfl
    | deny =>
      have hdeny := deny_of_same_atoms (fun atom => (h atom).symm) hafter
      rw [hbefore] at hdeny
      cases hdeny

/-! ## One list of atoms after another -/

theorem evaluate_append_of_ne_deny {first : List Atom} (hne : first ≠ [])
    (h : (evaluator.evaluate context ⟨first⟩).result ≠ .ok .deny) (second : List Atom) :
    (evaluator.evaluate context ⟨first ++ second⟩).result =
        (evaluator.evaluate context ⟨first⟩).result ∧
      (evaluator.evaluate context ⟨first ++ second⟩).calls =
        (evaluator.evaluate context ⟨first⟩).calls := by
  have hjoined : first ++ second ≠ [] := List.append_ne_nil_of_left_ne_nil hne second
  rw [result_evaluate_of_ne_nil _ _ hne] at h ⊢
  rw [result_evaluate_of_ne_nil _ _ hjoined, calls_evaluate, calls_evaluate,
    scan_append_of_ne_deny h]
  exact ⟨rfl, rfl⟩

theorem evaluate_append_of_deny {first second : List Atom} (hne : first ≠ [])
    (hsecond : second ≠ []) (h : (evaluator.evaluate context ⟨first⟩).result = .ok .deny) :
    (evaluator.evaluate context ⟨first ++ second⟩).result =
        (evaluator.evaluate context ⟨second⟩).result ∧
      (evaluator.evaluate context ⟨first ++ second⟩).calls =
        (evaluator.evaluate context ⟨first⟩).calls ++
          (evaluator.evaluate context ⟨second⟩).calls := by
  have hjoined : first ++ second ≠ [] := List.append_ne_nil_of_left_ne_nil hne second
  rw [result_evaluate_of_ne_nil _ _ hne] at h
  rw [result_evaluate_of_ne_nil _ _ hjoined, result_evaluate_of_ne_nil _ _ hsecond,
    calls_evaluate, calls_evaluate, calls_evaluate]
  obtain ⟨⟨outcomes, decision⟩, hscan, rfl⟩ := Run.map_eq_ok_iff.mp h
  rw [scan_append_of_deny hscan]
  refine ⟨?_, List.filterMap_append⟩
  cases (scan (evaluator.look context) second).result <;> rfl

end Evaluations

/-- Expressions made of the atoms of others.  The same atoms in any order and number
give the same decision wherever both give one.  A list of atoms followed by another comes
to what the first does, with its calls, unless the first denies.  It then comes to what the
second does, with the calls of both.  Two texts around a separator are malformed when one
of them is.  Otherwise they read as the atoms of the first followed by those of the
second, and are empty when both are. -/
theorem reordering_and_joining (evaluator : Evaluator) (context : Context) :
    (∀ expression other : Expression,
      (∀ atom, atom ∈ expression.atoms ↔ atom ∈ other.atoms) →
      ∀ before after, (evaluator.evaluate context expression).result = .ok before →
        (evaluator.evaluate context other).result = .ok after → before = after) ∧
    (∀ first second : List Atom, first ≠ [] → second ≠ [] →
      let one := evaluator.evaluate context ⟨first⟩
      let two := evaluator.evaluate context ⟨second⟩
      let joined := evaluator.evaluate context ⟨first ++ second⟩
      (one.result ≠ .ok .deny → joined.result = one.result ∧ joined.calls = one.calls) ∧
      (one.result = .ok .deny →
        joined.result = two.result ∧ joined.calls = one.calls ++ two.calls)) ∧
    (∀ a b : String,
      let malformed := fun raw => Expression.parse raw = .error (.malformedAtom "!")
      (malformed (a ++ "|" ++ b) ↔ malformed a ∨ malformed b) ∧
      (¬ malformed a → ¬ malformed b → ∃ first second,
        Expression.Contributes a first ∧ Expression.Contributes b second ∧
          Expression.Contributes (a ++ "|" ++ b) (first ++ second)) ∧
      (Expression.parse (a ++ "|" ++ b) = .error .empty ↔
        Expression.parse a = .error .empty ∧ Expression.parse b = .error .empty)) := by
  refine ⟨?_, ?_, ?_⟩
  · intro expression other h before after
    exact decision_eq_of_same_atoms h
  · intro first second hfirst hsecond
    refine ⟨?_, ?_⟩
    · intro hdecided
      exact evaluate_append_of_ne_deny hfirst hdecided second
    · exact evaluate_append_of_deny hfirst hsecond
  · intro a b
    exact ⟨Expression.parse_join_malformed_iff a b, Expression.exists_contributes_join,
      Expression.parse_join_empty_iff a b⟩

/-- To someone who has logged in, not logging in is denied.  So viewing decides in either
order, and after that denial it is asked as it is alone.  So it is with the texts of both. -/
theorem reordering_and_joining_denied_first :
    let page : Page := ⟨⟨"Main"⟩, .latest, none⟩
    let context : Context := ⟨⟨.nil, some "alice", []⟩, ⟨"Wiki"⟩, .page page⟩
    let evaluator : Evaluator := ⟨.authenticatedOnly, .failing (.corrupt "")⟩
    let denied : Atom := ⟨"login", true⟩
    let view : Atom := ⟨"view", false⟩
    let run (atoms : List Atom) := evaluator.evaluate context ⟨atoms⟩
    let malformed (raw : String) := Expression.parse raw = .error (.malformedAtom "!")
    ((∀ atom, atom ∈ [view, denied] ↔ atom ∈ [denied, view, denied]) ∧
      ∃ decision, (run [view, denied]).result = .ok decision ∧
        (run [denied, view, denied]).result = .ok decision) ∧
    ((run [denied]).result = .ok .deny ∧ (run [denied, view]).result = (run [view]).result ∧
      (run [denied, view]).calls = (run [denied]).calls ++ (run [view]).calls) ∧
    ((run [view]).result ≠ .ok .deny ∧ (run [view, denied]).calls = (run [view]).calls) ∧
    (¬ malformed "!login|" ∧ ¬ malformed "|view" ∧ ∃ first second,
      Expression.Contributes "!login|" first ∧ Expression.Contributes "|view" second ∧
        Expression.Contributes "!login|||view" (first ++ second)) := by
  intro page context evaluator denied view run malformed
  obtain ⟨horder, hjoin, htext⟩ := reordering_and_joining evaluator context
  have hatoms : ∀ atom, atom ∈ [view, denied] ↔ atom ∈ [denied, view, denied] := by
    intro atom
    simp only [List.mem_cons, List.not_mem_nil, or_false]
    exact ⟨.inr, fun h => h.elim .inr id⟩
  have hbefore : (run [view, denied]).result = .ok .allow := by decide
  obtain ⟨after, hafter⟩ : ∃ after, (run [denied, view, denied]).result = .ok after :=
    ⟨.allow, by decide⟩
  have hsame : .allow = after := horder ⟨_⟩ ⟨_⟩ hatoms _ _ hbefore hafter
  have hdenied : (run [denied]).result = .ok .deny := by decide
  have hviewed : (run [view]).result ≠ .ok .deny := by decide
  have hfirst : ¬ malformed "!login|" := by decide
  have hsecond : ¬ malformed "|view" := by decide
  refine ⟨⟨hatoms, .allow, hbefore, hsame ▸ hafter⟩, ⟨hdenied, ?_⟩, ⟨hviewed, ?_⟩,
    hfirst, hsecond, ?_⟩
  · exact (hjoin [denied] [view] (by decide) (by decide)).2 hdenied
  · exact ((hjoin [view] [denied] (by decide) (by decide)).1 hviewed).2
  · exact (htext "!login|" "|view").2.1 hfirst hsecond

/-- In another order the atoms of an allowed expression may fail. -/
example :
    let context : Context := ⟨⟨.nil, some "alice", []⟩, ⟨"Wiki"⟩, .application⟩
    let evaluator : Evaluator := ⟨.authenticatedOnly, .failing (.corrupt "")⟩
    (evaluator.evaluateText context "login|view").result = .ok .allow ∧
      (evaluator.evaluateText context "view|login").result =
        .error (.missingResource "view" .page) := by
  decide

end Evaluator
end WikiAccess
