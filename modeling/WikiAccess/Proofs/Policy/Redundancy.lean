import WikiAccess.Proofs.Evaluation.Answers
import WikiAccess.Proofs.Permission.Order
import WikiAccess.Proofs.Policy.Grants

/-!
# Grants that add nothing

A session that holds a permission holds every permission below it.  So a grant adds nothing
that is below one which the same principal has already, or which everybody has.
`redundant_grants_invisible` says that no check and no evaluation changes with it.  Only the
log can show it, when it names the principal through which a permission was granted.
-/

namespace WikiAccess
namespace Policy

variable {policy : Policy} {session : Session} {held requested permission : Permission}
  {principal grantee : String}

/-! ## Permissions below one that is held -/

theorem grantsTo_of_implies (h : policy.grantsTo held principal = true)
    (himplies : held.implies requested = true) : policy.grantsTo requested principal = true := by
  unfold grantsTo at h ⊢
  rw [List.any_eq_true] at h ⊢
  obtain ⟨granted, hgranted, hheld⟩ := h
  exact ⟨granted, hgranted, Permission.implies_trans hheld himplies⟩

theorem holds_of_implies (h : policy.holds session held = true)
    (himplies : held.implies requested = true) : policy.holds session requested = true := by
  rw [holds_iff] at h ⊢
  obtain ⟨principal, hprincipal, hgrants⟩ := h
  exact ⟨principal, hprincipal, grantsTo_of_implies hgrants himplies⟩

theorem holds_of_mem_grantsFor (hprincipal : principal ∈ session.principals)
    (h : held ∈ policy.grantsFor principal) : policy.holds session held = true := by
  refine (holds_iff policy session held).mpr ⟨principal, hprincipal, ?_⟩
  exact List.any_eq_true.mpr ⟨held, h, Permission.implies_self held⟩

/-! ## One more grant -/

theorem grantsTo_grant_iff :
    (policy.grant grantee permission).grantsTo requested principal = true ↔
      policy.grantsTo requested principal = true ∨
        (principal = grantee ∧ permission.implies requested = true) := by
  unfold grantsTo
  rw [grantsFor_grant, List.any_append, Bool.or_eq_true]
  by_cases h : principal = grantee
  · simp [h]
  · simp [h]

/-- With one more grant a session holds what it held before, and, if it speaks for the
grantee, what is below the new permission. -/
theorem holds_grant_iff :
    (policy.grant grantee permission).holds session requested = true ↔
      policy.holds session requested = true ∨
        (grantee ∈ session.principals ∧ permission.implies requested = true) := by
  rw [holds_iff, holds_iff]
  constructor
  · rintro ⟨principal, hprincipal, hgrants⟩
    rcases grantsTo_grant_iff.mp hgrants with hbefore | ⟨rfl, himplies⟩
    · exact .inl ⟨principal, hprincipal, hbefore⟩
    · exact .inr ⟨hprincipal, himplies⟩
  · rintro (⟨principal, hprincipal, hbefore⟩ | ⟨hgrantee, himplies⟩)
    · exact ⟨principal, hprincipal, grantsTo_grant_iff.mpr (.inl hbefore)⟩
    · exact ⟨grantee, hgrantee, grantsTo_grant_iff.mpr (.inr ⟨rfl, himplies⟩)⟩

theorem holds_grant_of_redundant
    (h : held ∈ policy.grantsFor grantee ∨ held ∈ policy.grantsFor "All")
    (himplies : held.implies permission = true) (session : Session) (requested : Permission) :
    (policy.grant grantee permission).holds session requested =
      policy.holds session requested := by
  rw [Bool.eq_iff_iff, holds_grant_iff]
  refine ⟨?_, .inl⟩
  rintro (hbefore | ⟨hgrantee, hbelow⟩)
  · exact hbefore
  · -- Whoever speaks for the grantee held the permission above the new one already.
    have hheld : policy.holds session held = true := by
      rcases h with h | h
      · exact holds_of_mem_grantsFor hgrantee h
      · exact holds_of_mem_grantsFor session.all_mem_principals h
    exact holds_of_implies (holds_of_implies hheld himplies) hbelow

/-- What is held is closed under implication.  So a grant to a principal changes no answer
when a permission that implies the granted one was granted before, to the same principal or
to all, and an expression comes to the same result and the same trace, by the same questions
and reads. -/
theorem redundant_grants_invisible (policy : Policy) :
    (∀ session held requested, policy.oracle.holds session held = true →
      held.implies requested = true → policy.oracle.holds session requested = true) ∧
    (∀ principal held requested,
      held ∈ policy.grantsFor principal ∨ held ∈ policy.grantsFor "All" →
      held.implies requested = true →
      let more := policy.grant principal requested
      (∀ session permission,
        more.oracle.holds session permission = policy.oracle.holds session permission) ∧
      ∀ store context expression,
        (Evaluator.evaluate ⟨more.oracle, store⟩ context expression).SameButLog
          (Evaluator.evaluate ⟨policy.oracle, store⟩ context expression) ∧
        (Evaluator.trace ⟨more.oracle, store⟩ context expression).SameButLog
          (Evaluator.trace ⟨policy.oracle, store⟩ context expression)) := by
  refine ⟨fun session held requested => holds_of_implies, ?_⟩
  intro principal held requested h himplies more
  have hanswers : ∀ session permission,
      more.oracle.holds session permission = policy.oracle.holds session permission :=
    holds_grant_of_redundant h himplies
  refine ⟨hanswers, fun store context expression => ⟨?_, ?_⟩⟩
  · exact Evaluator.sameButLog_evaluate (hanswers context.session) expression
  · exact Evaluator.sameButLog_trace (hanswers context.session) expression

/-- Where everybody may edit every page, a user who is granted to view one may do no more
than before. -/
theorem redundant_grants_invisible_view :
    let edit : Permission := .page ⟨"Wiki"⟩ ⟨"*"⟩ ⟨"edit"⟩
    let view : Permission := .page ⟨"Wiki"⟩ ⟨"Main"⟩ ⟨"view"⟩
    let policy := ofGrants [("All", edit)]
    let more := policy.grant "alice" view
    let context : Context :=
      ⟨⟨.nil, some "alice", []⟩, ⟨"Wiki"⟩, .page ⟨⟨"Main"⟩, .latest, none⟩⟩
    let store : PageStore := .failing (.corrupt "")
    let expression : Expression := ⟨[⟨"delete", false⟩, ⟨"view", false⟩]⟩
    policy.oracle.holds context.session edit = true ∧ edit ∈ policy.grantsFor "All" ∧
      edit.implies view = true ∧ policy.oracle.holds context.session view = true ∧
      (Evaluator.evaluate ⟨more.oracle, store⟩ context expression).SameButLog
        (Evaluator.evaluate ⟨policy.oracle, store⟩ context expression) := by
  intro edit view policy more context store expression
  have hholds : policy.oracle.holds context.session edit = true := by decide
  have hgranted : edit ∈ policy.grantsFor "All" := by decide
  have himplies : edit.implies view = true := by decide
  obtain ⟨hclosed, hredundant⟩ := redundant_grants_invisible policy
  obtain ⟨-, hruns⟩ := hredundant "alice" edit view (.inr hgranted) himplies
  exact ⟨hholds, hgranted, himplies, hclosed context.session edit view hholds himplies,
    (hruns store context expression).1⟩

/-- A redundant grant to a user moves the user's name to the log. -/
example :
    let view : Permission := .page ⟨"Wiki"⟩ ⟨"Main"⟩ ⟨"view"⟩
    let policy := ofGrants [("All", view)]
    let session : Session := ⟨.nil, some "alice", []⟩
    policy.granter? session view = some "All" ∧
      (policy.grant "alice" view).granter? session view = some "alice" := by
  decide

end Policy
end WikiAccess
