import WikiAccess.Multimap
import WikiAccess.Oracle
import WikiAccess.Permission.Implication

/-!
# Policies

A policy is an oracle made of grants.  Each grant gives one permission to one
principal, the name of a user or of a role.  A session holds a permission when
one of its principals was granted one that implies it.
-/

namespace WikiAccess

/-- The permissions granted to each principal, in the order of the grants. -/
structure Policy where
  grants : Multimap String Permission
  deriving Repr

namespace Policy

def empty : Policy := ⟨.empty⟩

/-- The policy with one more grant.  Granting twice keeps both. -/
def grant (policy : Policy) (principal : String) (permission : Permission) : Policy :=
  ⟨policy.grants.push principal permission⟩

def ofGrants (grants : List (String × Permission)) : Policy :=
  grants.foldl (fun policy grant => policy.grant grant.1 grant.2) empty

/-- What was granted to a principal, in order. -/
def grantsFor (policy : Policy) (principal : String) : List Permission :=
  policy.grants.valuesOf principal

/-- Whether a principal was granted a permission that implies the requested
one. -/
def grantsTo (policy : Policy) (requested : Permission) (principal : String) : Bool :=
  (policy.grantsFor principal).any fun held => held.implies requested

/-- The first of the session's principals that was granted the permission. -/
def granter? (policy : Policy) (session : Session) (requested : Permission) :
    Option String :=
  session.principals.find? (policy.grantsTo requested)

def holds (policy : Policy) (session : Session) (requested : Permission) : Bool :=
  (policy.granter? session requested).isSome

/-- A policy as an oracle.  When it grants a permission, it writes to the log
through which principal. -/
def oracle (policy : Policy) : Oracle where
  holds := policy.holds
  events session requested :=
    (policy.granter? session requested).toList.map fun principal =>
      .granted requested principal

end Policy
end WikiAccess
