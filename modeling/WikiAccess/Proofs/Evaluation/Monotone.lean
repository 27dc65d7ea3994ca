import WikiAccess.Proofs.Evaluation.Examination
import WikiAccess.Proofs.Policy.Grants

/-!
# What more grants change

A session holds more under a policy with more grants, and so does a session with more
roles.  What becomes of an evaluation follows item by item.  The same names come to the
same checks and fail alike, so an item can only become effective (`Raises`).  A scan may
then end earlier, with an allow, and otherwise ends as before (`atLeast_scan`).

`evaluation_monotone` draws the conclusion for expressions without negation, for those
with nothing else, where more grants allow less, and for a policy that grants nothing.
-/

namespace WikiAccess

/-! ## Results and looks that allow more -/

/-- A result after more was granted than before. -/
structure AtLeast (before after : Except EvaluationError Decision) : Prop where
  allow : before = .ok .allow → after = .ok .allow
  deny : before = .ok .deny → after = .ok .allow ∨ after = .ok .deny
  error : ∀ error, before = .error error → after = .error error ∨ after = .ok .allow

theorem atLeast_self (result : Except EvaluationError Decision) : AtLeast result result :=
  ⟨id, .inr, fun _ => .inl⟩

theorem atLeast_allow (before : Except EvaluationError Decision) :
    AtLeast before (.ok .allow) :=
  ⟨fun _ => rfl, fun _ => .inl rfl, fun _ _ => .inr rfl⟩

/-- An item fails alike, or is looked at both times and stays effective. -/
inductive Raises : Except EvaluationError Outcome → Except EvaluationError Outcome → Prop
  | failed (error : EvaluationError) : Raises (.error error) (.error error)
  | looked {before after : Outcome} :
    (before.effective = true → after.effective = true) → Raises (.ok before) (.ok after)

theorem atLeast_scan {α : Type} {look other : α → Run EvaluationError Outcome}
    {items : List α} (h : ∀ item ∈ items, Raises (look item).result (other item).result) :
    AtLeast ((scan look items).result.map Prod.snd) ((scan other items).result.map Prod.snd) := by
  induction items with
  | nil => exact atLeast_self _
  | cons item rest ih =>
    obtain ⟨hitem, hrest⟩ := List.forall_mem_cons.mp h
    have ih := ih hrest
    generalize hbefore : (look item).result = before at hitem
    generalize hafter : (other item).result = after at hitem
    cases hitem with
    | failed error =>
      rw [scan_cons_of_error hbefore, scan_cons_of_error hafter]
      exact atLeast_self _
    | @looked before after heffective =>
      cases hafterEffective : after.effective with
      | true =>
        rw [scan_cons_of_effective hafter hafterEffective]
        exact atLeast_allow _
      | false =>
        have hbeforeEffective : before.effective = false := by
          rw [Bool.eq_false_iff]
          intro htrue
          rw [heffective htrue] at hafterEffective
          cases hafterEffective
        rw [decision_scan_cons_of_not_effective hbefore hbeforeEffective,
          decision_scan_cons_of_not_effective hafter hafterEffective]
        exact ih

theorem Atom.effective_of_positive {atom : Atom} (h : atom.negated = false) (raw : Bool) :
    atom.effective raw = raw := by
  rw [effective, h, Bool.bne_false]

theorem Atom.effective_of_negated {atom : Atom} (h : atom.negated = true) (raw : Bool) :
    atom.effective raw = !raw := by
  rw [effective, h, Bool.bne_true]

/-- The results of an expression before and after more is granted.  Without negation it
allows more after, and with nothing else it allowed more before. -/
structure Expression.Tracks (expression : Expression)
    (before after : Except EvaluationError Decision) : Prop where
  positive : (∀ atom ∈ expression.atoms, atom.negated = false) → AtLeast before after
  negated : (∀ atom ∈ expression.atoms, atom.negated = true) → AtLeast after before

/-! ## Oracles that grant more -/

namespace Evaluator

variable {oracle more : Oracle} {store : PageStore} {context : Context}

/-- Names resolve alike, so only the answers can make an atom effective. -/
theorem raises_look {first second : Oracle} {context other : Context} {atom : Atom}
    (hresolve : other.resolve store atom.name = context.resolve store atom.name)
    (h : ∀ permission, atom.effective (first.holds context.session permission) = true →
      atom.effective (second.holds other.session permission) = true) :
    Raises (Evaluator.look ⟨first, store⟩ context atom).result
      (Evaluator.look ⟨second, store⟩ other atom).result := by
  rw [result_look_eq, result_look_eq]
  show Raises ((context.resolve store atom.name).result.map _)
    ((other.resolve store atom.name).result.map _)
  rw [hresolve]
  cases (context.resolve store atom.name).result with
  | error error => exact .failed error
  | ok resolution =>
    apply Raises.looked
    cases resolution with
    | stale edit => exact id
    | check permission => exact h permission

theorem atLeast_evaluate {first second : Oracle} {context other : Context}
    {expression : Expression} (h : ∀ atom ∈ expression.atoms,
      Raises (Evaluator.look ⟨first, store⟩ context atom).result
        (Evaluator.look ⟨second, store⟩ other atom).result) :
    AtLeast (Evaluator.evaluate ⟨first, store⟩ context expression).result
      (Evaluator.evaluate ⟨second, store⟩ other expression).result := by
  by_cases hne : expression.atoms = []
  · obtain rfl : expression = ⟨[]⟩ := Expression.ext hne
    exact atLeast_self _
  · rw [result_evaluate_of_ne_nil _ _ hne, result_evaluate_of_ne_nil _ _ hne]
    exact atLeast_scan h

theorem tracks_evaluate {context other : Context} {expression : Expression}
    (hresolve : ∀ name, other.resolve store name = context.resolve store name)
    (h : ∀ permission, oracle.holds context.session permission = true →
      more.holds other.session permission = true) :
    expression.Tracks (Evaluator.evaluate ⟨oracle, store⟩ context expression).result
      (Evaluator.evaluate ⟨more, store⟩ other expression).result := by
  constructor
  · intro hpositive
    refine atLeast_evaluate fun atom hatom => raises_look (hresolve _) fun permission => ?_
    rw [Atom.effective_of_positive (hpositive atom hatom),
      Atom.effective_of_positive (hpositive atom hatom)]
    exact h permission
  · intro hnegative
    refine atLeast_evaluate fun atom hatom => raises_look (hresolve _).symm fun permission => ?_
    rw [Atom.effective_of_negated (hnegative atom hatom),
      Atom.effective_of_negated (hnegative atom hatom), Bool.not_eq_true', Bool.not_eq_true']
    intro hmore
    rw [Bool.eq_false_iff] at hmore ⊢
    exact mt (h permission) hmore

theorem result_evaluate_ne_allow {expression : Expression}
    (hpositive : ∀ atom ∈ expression.atoms, atom.negated = false)
    (h : ∀ permission, oracle.holds context.session permission = false) :
    (Evaluator.evaluate ⟨oracle, store⟩ context expression).result ≠ .ok .allow := by
  intro hallow
  obtain ⟨atom, hatom, outcome, hjudge, heffective⟩ := exists_effective_of_allow _ _ hallow
  obtain ⟨resolution, -, rfl⟩ := resolution_of_look ((result_look _ _ _).trans hjudge)
  rw [Outcome.effective, Atom.effective_of_positive (hpositive atom hatom)] at heffective
  cases resolution with
  | stale edit => cases heffective
  | check permission =>
    have hraw : oracle.holds context.session permission = true := heffective
    rw [h permission] at hraw
    cases hraw

end Evaluator

/-! ## Policies that grant more -/

namespace Policy

/-- Whatever the first policy granted to anyone, so did the second. -/
def Within (policy other : Policy) : Prop :=
  ∀ principal, policy.grantsFor principal ⊆ other.grantsFor principal

theorem Within.grantsTo {policy other : Policy} (h : policy.Within other)
    {requested : Permission} {principal : String}
    (hgrants : policy.grantsTo requested principal = true) :
    other.grantsTo requested principal = true := by
  unfold Policy.grantsTo at hgrants ⊢
  rw [List.any_eq_true] at hgrants ⊢
  obtain ⟨held, hheld, himplies⟩ := hgrants
  exact ⟨held, h principal hheld, himplies⟩

theorem Within.holds {policy other : Policy} (h : policy.Within other) {session : Session}
    {requested : Permission} (hholds : policy.holds session requested = true) :
    other.holds session requested = true := by
  rw [holds_iff] at hholds ⊢
  obtain ⟨principal, hprincipal, hgrants⟩ := hholds
  exact ⟨principal, hprincipal, h.grantsTo hgrants⟩

/-- More roles are more names to speak for. -/
theorem holds_of_roles_subset {policy : Policy} {session other : Session}
    (huser : other.user = session.user) (hroles : session.roles ⊆ other.roles)
    {requested : Permission} (hholds : policy.holds session requested = true) :
    policy.holds other requested = true := by
  rw [holds_iff] at hholds ⊢
  obtain ⟨principal, hprincipal, hgrants⟩ := hholds
  refine ⟨principal, ?_, hgrants⟩
  rw [Session.mem_principals_iff] at hprincipal ⊢
  unfold Session.SpeaksFor at hprincipal ⊢
  rw [huser]
  apply hprincipal.imp_right
  apply Or.imp_left
  rintro ⟨role, hrole, hname⟩
  exact ⟨role, hroles hrole, hname⟩

theorem holds_eq_false_of_no_grants {policy : Policy}
    (h : ∀ principal, policy.grantsFor principal = []) (session : Session)
    (requested : Permission) : policy.holds session requested = false := by
  rw [Bool.eq_false_iff]
  intro hholds
  obtain ⟨principal, -, hgrants⟩ := (holds_iff policy session requested).mp hholds
  rw [Policy.grantsTo, h principal] at hgrants
  cases hgrants

/-- What an expression comes to under a policy. -/
def verdict (policy : Policy) (store : PageStore) (context : Context)
    (expression : Expression) : Except EvaluationError Decision :=
  (Evaluator.evaluate ⟨policy.oracle, store⟩ context expression).result

/-- Evaluation is monotone in what is granted.  Let a second policy grant everyone what
the first does, or let a second session of the same user have all the roles of the
first.  An expression without negation that was allowed stays allowed, one that was
denied stays denied or becomes allowed, and one that failed fails with the same error or
becomes allowed.  For an expression of negations only it is the other way round.  Where
nothing is granted, no expression without negation is allowed. -/
theorem evaluation_monotone (store : PageStore) (context : Context) (expression : Expression) :
    (∀ policy other : Policy, policy.Within other →
      expression.Tracks (policy.verdict store context expression)
        (other.verdict store context expression)) ∧
    (∀ (policy : Policy) (session : Session), session.user = context.session.user →
      context.session.roles ⊆ session.roles →
      expression.Tracks (policy.verdict store context expression)
        (policy.verdict store (context.inSession session) expression)) ∧
    (∀ policy : Policy, (∀ principal, policy.grantsFor principal = []) →
      (∀ atom ∈ expression.atoms, atom.negated = false) →
      policy.verdict store context expression ≠ .ok .allow) := by
  refine ⟨?_, ?_, ?_⟩
  · intro policy other hwithin
    exact Evaluator.tracks_evaluate (fun _ => rfl) fun _ => hwithin.holds
  · intro policy session huser hroles
    exact Evaluator.tracks_evaluate (context.resolve_inSession session store)
      fun _ => holds_of_roles_subset huser hroles
  · intro policy hnone hpositive
    exact Evaluator.result_evaluate_ne_allow hpositive
      (holds_eq_false_of_no_grants hnone context.session)

/-- More grants may end an evaluation before the atom that failed it. -/
theorem evaluation_monotone_past_failure :
    let page : Page := ⟨⟨"Main"⟩, .latest, none⟩
    let context : Context := ⟨⟨.nil, some "alice", []⟩, ⟨"Wiki"⟩, .page page⟩
    let store : PageStore := .failing (.corrupt "")
    let expression : Expression := ⟨[⟨"view", false⟩, ⟨"viewGroup", false⟩]⟩
    let more := Policy.ofGrants [("alice", .page ⟨"Wiki"⟩ ⟨"*"⟩ ⟨"edit"⟩)]
    let before := empty.verdict store context expression
    let after := more.verdict store context expression
    empty.Within more ∧ (∀ atom ∈ expression.atoms, atom.negated = false) ∧
      AtLeast before after ∧ before ≠ .ok .allow ∧
      before = .error (.missingResource "viewGroup" .group) ∧ after = .ok .allow := by
  intro page context store expression more before after
  have hwithin : empty.Within more := fun _ => List.nil_subset _
  have hpositive : ∀ atom ∈ expression.atoms, atom.negated = false := by decide
  obtain ⟨hmore, -, hnothing⟩ := evaluation_monotone store context expression
  exact ⟨hwithin, hpositive, (hmore empty more hwithin).positive hpositive,
    hnothing empty (fun _ => rfl) hpositive, by decide, by decide⟩

end Policy
end WikiAccess
