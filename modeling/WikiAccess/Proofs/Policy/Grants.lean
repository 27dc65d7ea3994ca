import WikiAccess.Policy

/-!
# What a policy grants

A policy is built up grant by grant and keeps the permissions of each principal
together.  The main statement, `ofGrants_refines_log`, is that none of this shows:
a policy decides as the plain list of its grants would, whatever names users, roles
and implied roles share.
-/

namespace WikiAccess
namespace Session

/-- The names that a session speaks for, by where they come from. -/
def SpeaksFor (session : Session) (name : String) : Prop :=
  session.user = some name ∨ (∃ role ∈ session.roles, role.text = name) ∨ name = "All" ∨
    (session.user.isSome = true ∧ name = "Authenticated") ∨
    (session.user = none ∧ name = "Anonymous")

theorem principals_eq (session : Session) :
    session.principals =
      session.user.toList ++ session.roles.map Role.text ++
        ["All", if session.user.isSome then "Authenticated" else "Anonymous"] := by
  unfold principals builtinRoles isAuthenticated
  cases session.user with
  | none => rfl
  | some user => rfl

theorem mem_principals_iff (session : Session) (name : String) :
    name ∈ session.principals ↔ session.SpeaksFor name := by
  rw [principals_eq, SpeaksFor, List.mem_append, List.mem_append, Option.mem_toList,
    List.mem_map, List.mem_cons, List.mem_singleton, or_assoc]
  cases session.user with
  | none => simp
  | some user => simp

/-- Which names a session speaks for depends on its user and on which roles it has,
not on their order or number. -/
theorem speaksFor_congr {session other : Session} (huser : other.user = session.user)
    (hroles : ∀ role, role ∈ other.roles ↔ role ∈ session.roles) (name : String) :
    other.SpeaksFor name ↔ session.SpeaksFor name := by
  simp only [SpeaksFor, huser, hroles]

end Session

namespace Policy

/-! ## The permissions of one principal -/

theorem grantsFor_grant (policy : Policy) (grantee : String) (permission : Permission)
    (principal : String) :
    (policy.grant grantee permission).grantsFor principal =
      policy.grantsFor principal ++ if principal = grantee then [permission] else [] :=
  Multimap.valuesOf_push policy.grants grantee permission principal

theorem grantsFor_foldl_grant (grants : List (String × Permission)) (policy : Policy)
    (principal : String) :
    (grants.foldl (fun policy grant => policy.grant grant.1 grant.2) policy).grantsFor
        principal =
      policy.grantsFor principal ++
        (grants.filter fun grant => grant.1 = principal).map Prod.snd := by
  -- The policy varies, since each grant is made to what the ones before built up.
  induction grants generalizing policy with
  | nil => exact (List.append_nil _).symm
  | cons grant rest ih =>
    rw [List.foldl_cons, ih, grantsFor_grant, List.filter_cons]
    by_cases h : grant.1 = principal
    · simp [h]
    · simp [h, Ne.symm h]

theorem grantsFor_ofGrants (grants : List (String × Permission)) (principal : String) :
    (ofGrants grants).grantsFor principal =
      (grants.filter fun grant => grant.1 = principal).map Prod.snd :=
  grantsFor_foldl_grant grants empty principal

theorem grantsTo_ofGrants_iff (grants : List (String × Permission))
    (requested : Permission) (principal : String) :
    (ofGrants grants).grantsTo requested principal = true ↔
      ∃ held, (principal, held) ∈ grants ∧ held.implies requested = true := by
  unfold grantsTo
  rw [grantsFor_ofGrants, List.any_eq_true]
  constructor
  · rintro ⟨held, hheld, himplies⟩
    obtain ⟨grant, hgrant, rfl⟩ := List.mem_map.mp hheld
    obtain ⟨hmem, hprincipal⟩ := List.mem_filter.mp hgrant
    obtain rfl := of_decide_eq_true hprincipal
    exact ⟨grant.2, hmem, himplies⟩
  · rintro ⟨held, hmem, himplies⟩
    refine ⟨held, ?_, himplies⟩
    exact List.mem_map.mpr ⟨(principal, held), List.mem_filter.mpr ⟨hmem, by simp⟩, rfl⟩

/-! ## The decision -/

theorem holds_iff (policy : Policy) (session : Session) (requested : Permission) :
    policy.holds session requested = true ↔
      ∃ principal ∈ session.principals, policy.grantsTo requested principal = true := by
  unfold holds granter?
  rw [List.find?_isSome]

theorem holds_ofGrants_iff (grants : List (String × Permission)) (session : Session)
    (requested : Permission) :
    (ofGrants grants).holds session requested = true ↔
      ∃ grant ∈ grants, grant.2.implies requested = true ∧ session.SpeaksFor grant.1 := by
  rw [holds_iff]
  constructor
  · rintro ⟨principal, hprincipal, hgrants⟩
    obtain ⟨held, hmem, himplies⟩ := (grantsTo_ofGrants_iff grants requested principal).mp hgrants
    exact ⟨(principal, held), hmem, himplies, (session.mem_principals_iff principal).mp hprincipal⟩
  · rintro ⟨⟨principal, held⟩, hmem, himplies, hspeaks⟩
    refine ⟨principal, (session.mem_principals_iff principal).mpr hspeaks, ?_⟩
    exact (grantsTo_ofGrants_iff grants requested principal).mpr ⟨held, hmem, himplies⟩

theorem log_ask_oracle {ε : Type} (policy : Policy) (session : Session)
    (requested : Permission) :
    (policy.oracle.ask session requested : Run ε Bool).log =
      (policy.granter? session requested).toList.map fun principal =>
        .granted requested principal :=
  Oracle.log_ask policy.oracle session requested

theorem not_grantsTo_ofGrants_iff (grants : List (String × Permission))
    (requested : Permission) (principal : String) :
    (!(ofGrants grants).grantsTo requested principal) = true ↔
      ∀ held, (principal, held) ∈ grants → held.implies requested = false := by
  rw [Bool.not_eq_true', Bool.eq_false_iff, Ne, grantsTo_ofGrants_iff, not_exists]
  constructor
  · intro h held hmem
    exact Bool.eq_false_iff.mpr fun himplies => h held ⟨hmem, himplies⟩
  · rintro h held ⟨hmem, himplies⟩
    rw [h held hmem] at himplies
    cases himplies

/-- Who granted a permission is the first of the session's names, in their order, that
has a grant of one that implies it. -/
theorem granter?_ofGrants_eq_some_iff (grants : List (String × Permission))
    (session : Session) (requested : Permission) (principal : String) :
    (ofGrants grants).granter? session requested = some principal ↔
      (∃ held, (principal, held) ∈ grants ∧ held.implies requested = true) ∧
        ∃ before after, session.principals = before ++ principal :: after ∧
          ∀ name ∈ before, ∀ held, (name, held) ∈ grants → held.implies requested = false := by
  unfold granter?
  rw [List.find?_eq_some_iff_append, grantsTo_ofGrants_iff]
  simp only [not_grantsTo_ofGrants_iff]

/-- A policy decides as the list of its grants.  A session holds a permission exactly
when some grant of one that implies it went to a name the session speaks for, so the
order and the number of the grants do not matter, nor those of the session's roles.
What was granted to a name is the part of the list that concerns it, in order.  To the
log goes, when the permission is held, the first name with such a grant, the user
before the roles in order and these before the implied roles, and otherwise nothing. -/
theorem ofGrants_refines_log {ε : Type} (grants : List (String × Permission))
    (session : Session) (requested : Permission) :
    ((ofGrants grants).oracle.holds session requested = true ↔
      ∃ grant ∈ grants, grant.2.implies requested = true ∧ session.SpeaksFor grant.1) ∧
    (∀ others : List (String × Permission), (∀ grant, grant ∈ others ↔ grant ∈ grants) →
      (ofGrants others).oracle.holds session requested =
        (ofGrants grants).oracle.holds session requested) ∧
    (∀ other : Session, other.user = session.user →
      (∀ role, role ∈ other.roles ↔ role ∈ session.roles) →
      (ofGrants grants).oracle.holds other requested =
        (ofGrants grants).oracle.holds session requested) ∧
    (∀ principal, (ofGrants grants).grantsFor principal =
      (grants.filter fun grant => grant.1 = principal).map Prod.snd) ∧
    ((ofGrants grants).oracle.holds session requested = true →
      ∃ before principal after,
        session.user.toList ++ session.roles.map Role.text ++
            ["All", if session.user.isSome then "Authenticated" else "Anonymous"] =
          before ++ principal :: after ∧
        (∃ held, (principal, held) ∈ grants ∧ held.implies requested = true) ∧
        (∀ name ∈ before, ∀ held, (name, held) ∈ grants →
          held.implies requested = false) ∧
        ((ofGrants grants).oracle.ask session requested : Run ε Bool).log =
          [.granted requested principal]) ∧
    ((ofGrants grants).oracle.holds session requested = false →
      ((ofGrants grants).oracle.ask session requested : Run ε Bool).log = []) := by
  refine ⟨holds_ofGrants_iff grants session requested, ?_, ?_,
    grantsFor_ofGrants grants, ?_, ?_⟩
  · intro others hothers
    refine Bool.eq_iff_iff.mpr ?_
    show (ofGrants others).holds session requested = true ↔
      (ofGrants grants).holds session requested = true
    rw [holds_ofGrants_iff, holds_ofGrants_iff]
    simp only [hothers]
  · intro other huser hroles
    refine Bool.eq_iff_iff.mpr ?_
    show (ofGrants grants).holds other requested = true ↔
      (ofGrants grants).holds session requested = true
    rw [holds_ofGrants_iff, holds_ofGrants_iff]
    simp only [Session.speaksFor_congr huser hroles]
  · intro hholds
    obtain ⟨principal, hgranter⟩ := Option.isSome_iff_exists.mp hholds
    obtain ⟨hgrant, before, after, hsplit, hbefore⟩ :=
      (granter?_ofGrants_eq_some_iff grants session requested principal).mp hgranter
    refine ⟨before, principal, after, ?_, hgrant, hbefore, ?_⟩
    · rw [← hsplit, Session.principals_eq]
    · rw [log_ask_oracle, hgranter]
      rfl
  · intro hholds
    have hgranter : (ofGrants grants).granter? session requested = none :=
      Option.isNone_iff_eq_none.mp (Option.isSome_eq_false_iff.mp hholds)
    rw [log_ask_oracle, hgranter]
    rfl

end Policy
end WikiAccess
