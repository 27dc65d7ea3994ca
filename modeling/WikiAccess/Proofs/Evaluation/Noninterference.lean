import WikiAccess.Proofs.Evaluation.Examination
import WikiAccess.Proofs.Permission.Order
import WikiAccess.Proofs.Policy.Deletion

/-!
# Grants that cannot influence a decision

In a context a name comes to a permission of the application at hand, or to one on the
group at hand, which belongs to no application.  So a grant to somebody else does not
count, and neither does one on the wiki or on a page of another application.  A grant on a
group, or the override of another application, counts for names of group actions alone.

`irrelevant_grants_unobserved` draws the conclusion for whole evaluations.  With such
grants deleted an evaluation is the same run, in its result and in every effect.
-/

namespace WikiAccess
namespace Permission

/-- The application that a permission belongs to.  One on a group belongs to none. -/
def application? : Permission → Option ApplicationName
  | .wiki application _ => some application
  | .group _ _ => none
  | .all application => some application
  | .page application _ _ => some application

/-- Whether a grant can count in an application.  A permission on the wiki or on a page
counts in its own application only. -/
def countsIn (application : ApplicationName) : Permission → Bool
  | .wiki other _ => other == application
  | .group _ _ => true
  | .all _ => true
  | .page other _ _ => other == application

variable {held requested : Permission} {application : ApplicationName}

theorem application?_of_implies (h : held.implies requested = true)
    (happlication : requested.application? = some application) :
    held.application? = some application := by
  cases requested with
  | group name action => cases happlication
  | all other =>
    rw [implies_all_iff.mp h]
    exact happlication
  | wiki other action =>
    cases held with
    | all granted => rw [implies_all_wiki_iff.mp h]; exact happlication
    | wiki granted held => rw [(implies_wiki_iff.mp h).1]; exact happlication
    | _ => cases h
  | page other name action =>
    cases held with
    | all granted => rw [implies_all_page_iff.mp h]; exact happlication
    | page granted name held => rw [(implies_page_iff.mp h).1]; exact happlication
    | _ => cases h

theorem countsIn_of_application? (h : held.application? = some application) :
    held.countsIn application = true := by
  cases held <;> simp_all [application?, countsIn]

theorem countsIn_of_implies_group {name : GroupName} {action : GroupAction}
    (h : held.implies (.group name action) = true) (application : ApplicationName) :
    held.countsIn application = true := by
  cases held with
  | all other => rfl
  | group granted held => rfl
  | _ => cases h

end Permission

/-! ## What names come to in a context -/

namespace Context

variable {context : Context} {name : String} {permission held : Permission}

theorem application_or_group_of_checks (h : context.Checks name permission) :
    permission.application? = some context.application ∨
      ∃ group, permission = .group group .view ∧
        name ∈ ["viewGroup", "editGroup", "deleteGroup"] := by
  cases h with
  | group hgroup =>
    exact .inr ⟨_, rfl, by simpa using PermissionKind.ofName_eq_groupScoped hgroup⟩
  | _ => exact .inl rfl

theorem countsIn_of_checks (h : context.Checks name permission)
    (himplies : held.implies permission = true) : held.countsIn context.application = true := by
  rcases application_or_group_of_checks h with happlication | ⟨group, rfl, -⟩
  · apply Permission.countsIn_of_application?
    exact Permission.application?_of_implies himplies happlication
  · exact Permission.countsIn_of_implies_group himplies _

theorem application?_of_checks (h : context.Checks name permission)
    (himplies : held.implies permission = true)
    (hname : name ∉ ["viewGroup", "editGroup", "deleteGroup"]) :
    held.application? = some context.application := by
  rcases application_or_group_of_checks h with happlication | ⟨group, -, hspelled⟩
  · exact Permission.application?_of_implies himplies happlication
  · exact absurd hspelled hname

end Context

/-! ## Whole evaluations -/

namespace Policy

variable {policy : Policy} {store : PageStore} {context : Context} {expression : Expression}
  {keep : String → Permission → Bool}

/-- Deleting grants is not noticed when none of them went to a name the session speaks for
and implied what a name of the expression comes to. -/
theorem sameRuns_only
    (h : ∀ atom ∈ expression.atoms, ∀ permission, context.Checks atom.name permission →
      ∀ principal ∈ context.session.principals, ∀ held, held.implies permission = true →
      keep principal held = true) :
    Evaluator.SameRuns ⟨(policy.only keep).oracle, store⟩ ⟨policy.oracle, store⟩ context
      expression := by
  refine Evaluator.sameRuns_of_look fun atom hexamined => ?_
  refine Evaluator.look_congr_oracle fun permission hresolve => ask_oracle_only ?_
  exact h atom (List.mem_of_mem_take hexamined) permission (Context.checks_of_resolve hresolve)

/-- Grants that concern other principals or other applications cannot influence a
decision.  Delete from a policy every grant to a name that the session does not speak for,
and every permission on the wiki or on a page of another application than the one at hand.
An expression then has the same run as before, evaluated or traced.  For an expression
without names of group actions the same holds when every permission on a group and the
overrides of other applications are deleted as well.

To delete grants from a policy is to make the policy without them. -/
theorem irrelevant_grants_unobserved (policy : Policy) (store : PageStore) (context : Context)
    (expression : Expression) :
    Evaluator.SameRuns
      ⟨(policy.only fun principal held =>
        decide (principal ∈ context.session.principals) &&
          held.countsIn context.application).oracle, store⟩
      ⟨policy.oracle, store⟩ context expression ∧
    ((∀ atom ∈ expression.atoms, atom.name ∉ ["viewGroup", "editGroup", "deleteGroup"]) →
      Evaluator.SameRuns
        ⟨(policy.only fun principal held =>
          decide (principal ∈ context.session.principals) &&
            held.application? == some context.application).oracle, store⟩
        ⟨policy.oracle, store⟩ context expression) ∧
    (∀ (grants : List (String × Permission)) (keep : String → Permission → Bool),
      ((ofGrants grants).only keep).oracle =
        (ofGrants (grants.filter fun grant => keep grant.1 grant.2)).oracle) := by
  refine ⟨?_, ?_, oracle_only_ofGrants⟩
  · apply sameRuns_only
    intro atom _ permission hchecks principal hprincipal held himplies
    have hcounts := Context.countsIn_of_checks hchecks himplies
    rw [hcounts, decide_eq_true hprincipal, Bool.and_self]
  · intro hnames
    apply sameRuns_only
    intro atom hatom permission hchecks principal hprincipal held himplies
    have happlication := Context.application?_of_checks hchecks himplies (hnames atom hatom)
    rw [happlication, beq_self_eq_true, decide_eq_true hprincipal, Bool.and_self]

/-- Of four grants one can count for viewing and editing a page, the one to the user on a
page of the application at hand. -/
theorem irrelevant_grants_unobserved_on_page :
    let page : Page := ⟨⟨"Main"⟩, .latest, none⟩
    let context : Context := ⟨⟨.nil, some "alice", []⟩, ⟨"Wiki"⟩, .page page⟩
    let expression : Expression := ⟨[⟨"edit", false⟩, ⟨"view", true⟩]⟩
    let view : Permission := .page ⟨"Wiki"⟩ ⟨"*"⟩ ⟨"view"⟩
    let policy := ofGrants [("bob", .all ⟨"Wiki"⟩), ("alice", .all ⟨"Other"⟩),
      ("alice", .group ⟨"*"⟩ .delete), ("alice", view)]
    (∀ atom ∈ expression.atoms, atom.name ∉ ["viewGroup", "editGroup", "deleteGroup"]) ∧
      Evaluator.evaluate ⟨(ofGrants [("alice", view)]).oracle, .failing (.corrupt "")⟩ context
          expression =
        Evaluator.evaluate ⟨policy.oracle, .failing (.corrupt "")⟩ context expression := by
  intro page context expression view policy
  have hnames : ∀ atom ∈ expression.atoms,
      atom.name ∉ ["viewGroup", "editGroup", "deleteGroup"] := by decide
  obtain ⟨-, hdelete, honly⟩ := irrelevant_grants_unobserved policy (.failing (.corrupt ""))
    context expression
  refine ⟨hnames, ?_⟩
  rw [← (hdelete hnames).evaluate, honly]
  rfl

/-- The override of another application counts for a name of a group action. -/
example :
    let context : Context := ⟨⟨.nil, some "alice", []⟩, ⟨"Wiki"⟩, .group ⟨"Editors"⟩⟩
    let policy := ofGrants [("alice", .all ⟨"Other"⟩)]
    let run (policy : Policy) := (Evaluator.evaluate ⟨policy.oracle, .failing (.corrupt "")⟩
      context ⟨[⟨"viewGroup", false⟩]⟩).result
    run policy = .ok .allow ∧
      run (policy.only fun _ held => held.application? == some ⟨"Wiki"⟩) = .ok .deny := by
  decide

end Policy
end WikiAccess
