import WikiAccess.Proofs.Policy.Deletion

/-!
# Grants to the roles that a session's state implies

The user, the granted roles and the implied roles of a session are names in one list.  So
a grant to a name counts for every session that has the name from anywhere
(`without_unnoticed_iff`), and a grant to an implied role also for a session whose user or
granted role is spelled like it.

`implied_roles_follow_state_iff` says for which sessions the state alone decides whether a
grant to `Authenticated` or `Anonymous` counts.  `implied_roles_can_be_claimed` shows two
sessions for which it does not.
-/

namespace WikiAccess

theorem Role.exists_mem_text_iff {role : Role} {roles : List Role} :
    (∃ granted ∈ roles, granted.text = role.text) ↔ role ∈ roles := by
  simp only [← Role.ext_iff, exists_eq_right]

namespace Session

variable {session : Session}

theorem speaksFor_authenticated_iff (h : session.user = none) :
    session.SpeaksFor "Authenticated" ↔ Role.authenticated ∈ session.roles := by
  rw [← Role.exists_mem_text_iff]
  simp [SpeaksFor, h, Role.authenticated]

theorem speaksFor_anonymous_iff {user : String} (h : session.user = some user) :
    session.SpeaksFor "Anonymous" ↔ user = "Anonymous" ∨ Role.anonymous ∈ session.roles := by
  rw [← Role.exists_mem_text_iff]
  simp [SpeaksFor, h, Role.anonymous]

end Session

namespace Policy

/-- A policy without any grant to a name. -/
def without (policy : Policy) (name : String) : Policy :=
  policy.only fun principal _ => principal != name

variable {policy : Policy} {session : Session} {requested : Permission} {name : String}

theorem grantsTo_without_self (policy : Policy) (requested : Permission) (name : String) :
    (policy.without name).grantsTo requested name = false := by
  rw [grantsTo, without, grantsFor_only]
  simp

theorem grantsTo_without_of_ne {principal : String} (h : principal ≠ name) :
    (policy.without name).grantsTo requested principal = policy.grantsTo requested principal :=
  grantsTo_only fun _ _ => bne_iff_ne.mpr h

/-- Without the grants to a name a session holds what its other names were granted. -/
theorem holds_without_iff :
    (policy.without name).holds session requested = true ↔
      ∃ principal, session.SpeaksFor principal ∧ principal ≠ name ∧
        policy.grantsTo requested principal = true := by
  rw [holds_iff]
  constructor
  · rintro ⟨principal, hprincipal, hgrants⟩
    have hne : principal ≠ name := by
      rintro rfl
      rw [grantsTo_without_self] at hgrants
      cases hgrants
    rw [grantsTo_without_of_ne hne] at hgrants
    exact ⟨principal, (session.mem_principals_iff principal).mp hprincipal, hne, hgrants⟩
  · rintro ⟨principal, hspeaks, hne, hgrants⟩
    refine ⟨principal, (session.mem_principals_iff principal).mpr hspeaks, ?_⟩
    rw [grantsTo_without_of_ne hne]
    exact hgrants

theorem holds_without_of_not_speaksFor (h : ¬ session.SpeaksFor name) :
    (policy.without name).holds session requested = policy.holds session requested := by
  have hgranter : (policy.without name).granter? session requested =
      policy.granter? session requested := by
    refine granter?_only fun principal hprincipal _ _ => bne_iff_ne.mpr ?_
    rintro rfl
    exact h ((session.mem_principals_iff principal).mp hprincipal)
  rw [holds, holds, hgranter]

/-- A session that does not notice when the grants to a name are deleted is one that does
not speak for the name. -/
theorem without_unnoticed_iff (session : Session) (name : String) :
    (∀ (policy : Policy) (requested : Permission),
      (policy.without name).holds session requested = policy.holds session requested) ↔
      ¬ session.SpeaksFor name := by
  constructor
  · intro h hspeaks
    -- One grant to the name is held, and is nobody else's.
    let requested : Permission := .wiki ⟨"Wiki"⟩ .login
    have hgrants : (empty.grant name requested).grantsFor name = [requested] :=
      Multimap.valuesOf_push_self _ _ _
    have hholds : (empty.grant name requested).holds session requested = true := by
      refine (holds_iff _ _ _).mpr ⟨name, (session.mem_principals_iff name).mpr hspeaks, ?_⟩
      rw [grantsTo, hgrants]
      rfl
    rw [← h, holds_without_iff] at hholds
    obtain ⟨principal, -, hne, hother⟩ := hholds
    rw [grantsTo, grantsFor_grant, if_neg hne] at hother
    cases hother
  · exact fun h policy requested => holds_without_of_not_speaksFor h

/-- When the state of a session alone decides whether grants to the roles it implies count.
Without a user, grants to `Authenticated` never count exactly when no granted role has that
name.  With a user, grants to `Anonymous` never count exactly when neither the user nor a
granted role has that name. -/
theorem implied_roles_follow_state_iff (session : Session) :
    (session.user = none →
      ((∀ (policy : Policy) (requested : Permission),
        (policy.without "Authenticated").oracle.holds session requested =
          policy.oracle.holds session requested) ↔
        Role.authenticated ∉ session.roles)) ∧
    (∀ user, session.user = some user →
      ((∀ (policy : Policy) (requested : Permission),
        (policy.without "Anonymous").oracle.holds session requested =
          policy.oracle.holds session requested) ↔
        user ≠ "Anonymous" ∧ Role.anonymous ∉ session.roles)) := by
  constructor
  · intro huser
    rw [← Session.speaksFor_authenticated_iff huser]
    exact without_unnoticed_iff session "Authenticated"
  · intro user huser
    rw [Ne, ← not_or, ← Session.speaksFor_anonymous_iff huser]
    exact without_unnoticed_iff session "Anonymous"

/-- A session without a user holds what was granted to `Authenticated` when it has a role of
that name, and a user called `Anonymous` holds what was granted to `Anonymous`. -/
theorem implied_roles_can_be_claimed :
    let requested : Permission := .wiki ⟨"JSPWiki"⟩ .createPages
    let policy := ofGrants [("Authenticated", requested)]
    let other := ofGrants [("Anonymous", requested)]
    let guest : Session := ⟨.nil, none, [.authenticated]⟩
    let user : Session := ⟨.nil, some "Anonymous", []⟩
    guest.isAuthenticated = false ∧
      policy.oracle.holds guest requested = true ∧
      (policy.without "Authenticated").oracle.holds guest requested = false ∧
      user.isAuthenticated = true ∧
      other.oracle.holds user requested = true ∧
      (other.without "Anonymous").oracle.holds user requested = false := by
  decide

end Policy
end WikiAccess
